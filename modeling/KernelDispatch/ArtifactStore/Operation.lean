/-
  KernelDispatch.ArtifactStore.Operation

  The operations on an artifact store as data, with their answers. Every
  operation is atomic, so whatever threads do with a shared store is a sequence
  of operations, and `StoreOp.run` is what they leave behind.
-/
import KernelDispatch.ArtifactStore.Basic

namespace KernelDispatch

/-- An operation that changes an artifact store. -/
inductive StoreOp (A : Type) where
  | request (key : TaskId) (flush : Nat)
  | publish (key : TaskId) (artifact : A)
  | fail (key : TaskId) (message : String)
  | rejectPending (message : String)
  | retain (retention : Retention) (rank : TaskId → Nat)
  | clear

/-- What an operation answers. -/
inductive StoreAnswer where
  | standing (answer : Standing)
  | settled (changed : Bool)
  | counted (n : Nat)
  | done
  deriving DecidableEq

namespace StoreOp

variable {A : Type}

/-- The answer of an operation and the store after it. -/
def apply (s : ArtifactStore A) : StoreOp A → StoreAnswer × ArtifactStore A
  | request k flush => let (r, s') := s.request k flush; (.standing r, s')
  | publish k a => let (b, s') := s.publish k a; (.settled b, s')
  | fail k m => let (b, s') := s.fail k m; (.settled b, s')
  | rejectPending m => let (n, s') := s.rejectPending m; (.counted n, s')
  | retain retention rank => let (n, s') := s.retain retention rank; (.counted n, s')
  | clear => (.done, ∅)

/-- The store after a sequence of operations. -/
def run (s : ArtifactStore A) (ops : List (StoreOp A)) : ArtifactStore A :=
  ops.foldl (fun s op => (op.apply s).2) s

/-- Whether an operation with this answer settled a slot and therefore notifies the waiters. -/
def notifies : StoreOp A → StoreAnswer → Bool
  | publish .., .settled changed => changed
  | fail .., .settled changed => changed
  | rejectPending _, .counted n => n > 0
  | _, _ => false

end StoreOp

end KernelDispatch
