/-
  KernelDispatch.ArtifactStore.Waiting

  Threads that wait for artifacts, as moves between states.

  A waiter examines its slot under the store's lock. If the slot is settled or
  has no entry it answers; otherwise it falls asleep, which gives up the lock in
  the same move. Two things wake it: the notification that follows a settling
  operation, as a move of its own, and the passing of its deadline; it may also wake
  for no reason. It then examines its slot again, and only a waiter whose deadline
  woke it may give up on a pending slot.

  `WaitRoom.run` follows any order of moves. A `WaitScript` fixes one: threads
  that start one another at given times and move promptly.
-/
import KernelDispatch.ArtifactStore.Operation
import KernelDispatch.Span

namespace KernelDispatch

/-- Where a waiter stands. -/
inductive WaiterPhase (A : Type) where
  /-- About to examine its slot; `expired` if its deadline woke it. -/
  | awake (expired : Bool)
  /-- Asleep until a notification or its deadline. -/
  | asleep
  /-- It has returned with this answer. -/
  | answered (answer : Finding A)

/-- A thread that waits for a task until a deadline. -/
structure Waiter (A : Type) where
  key : TaskId
  deadline : Moment
  phase : WaiterPhase A

namespace Waiter

variable {A : Type}

/-- A notification wakes a sleeper. -/
def notified (w : Waiter A) : Waiter A :=
  match w.phase with
  | .asleep => { w with phase := .awake false }
  | _ => w

/-- The answer of a waiter; one that has not returned has none. -/
def answer? (w : Waiter A) : Option (Finding A) :=
  match w.phase with
  | .answered l => some l
  | _ => none

end Waiter

/-- A shared store with its waiters. -/
structure WaitRoom (A : Type) where
  now : Moment := 0
  store : ArtifactStore A := ∅
  /-- The settling operations that have given up the lock and not notified yet. -/
  owed : Nat := 0
  waiters : List (Waiter A) := []

/-- A move of one thread, or of the clock. -/
inductive WaitMove (A : Type) where
  /-- A thread begins to wait. -/
  | arrive (key : TaskId) (deadline : Moment)
  /-- A thread performs an operation on the store. -/
  | operate (op : StoreOp A)
  /-- A settling operation notifies all sleepers. -/
  | notify
  /-- The deadline of the sleeping waiter with this index wakes it. -/
  | expire (index : Nat)
  /-- The sleeping waiter with this index wakes for no reason. -/
  | stir (index : Nat)
  /-- The waiter with this index examines its slot. -/
  | examine (index : Nat)
  /-- Time passes. -/
  | tick (nanos : Nat)

namespace WaitRoom

variable {A : Type}

/-- Where a waiter stands after it has examined its slot. -/
def examined (s : ArtifactStore A) (w : Waiter A) (expired : Bool) : WaiterPhase A :=
  match s.examine w.key expired with
  | some l => .answered l
  | none => .asleep

/-- The room after a move; `none` if the move is not possible. -/
def step (r : WaitRoom A) : WaitMove A → Option (WaitRoom A)
  | .arrive key deadline =>
    some { r with waiters := r.waiters ++ [⟨key, deadline, .awake false⟩] }
  | .operate op =>
    let (answer, store) := op.apply r.store
    some { r with store := store, owed := r.owed + (op.notifies answer).toNat }
  | .notify =>
    match r.owed with
    | 0 => none
    | n + 1 => some { r with owed := n, waiters := r.waiters.map Waiter.notified }
  | .expire i =>
    match r.waiters[i]? with
    | some ⟨key, deadline, .asleep⟩ =>
      if deadline ≤ r.now then
        some { r with waiters := r.waiters.set i ⟨key, deadline, .awake true⟩ }
      else none
    | _ => none
  | .stir i =>
    match r.waiters[i]? with
    | some ⟨key, deadline, .asleep⟩ =>
      some { r with waiters := r.waiters.set i ⟨key, deadline, .awake false⟩ }
    | _ => none
  | .examine i =>
    match r.waiters[i]? with
    | some ⟨key, deadline, .awake expired⟩ =>
      let w : Waiter A := ⟨key, deadline, .awake expired⟩
      some { r with waiters := r.waiters.set i { w with phase := examined r.store w expired } }
    | _ => none
  | .tick d => some { r with now := r.now + d }

/-- The room after a sequence of moves; `none` if one of them is not possible. -/
def run (r : WaitRoom A) (moves : List (WaitMove A)) : Option (WaitRoom A) :=
  moves.foldlM step r

/-! ## Scripts -/

/-- Makes the moves that are possible and leaves out the others. -/
def follow (r : WaitRoom A) (moves : List (WaitMove A)) : WaitRoom A :=
  moves.foldl (fun r m => (r.step m).getD r) r

/-- Every waiter that is awake examines its slot. -/
def examineAll (r : WaitRoom A) : WaitRoom A :=
  r.follow ((List.range r.waiters.length).map .examine)

/-- Whether a waiter is asleep with a deadline before `time`. -/
def expiresBefore (time : Moment) (w : Waiter A) : Bool :=
  match w.phase with
  | .asleep => decide (w.deadline < time)
  | _ => false

/-- Time passes to `time`. The sleepers whose deadlines lie before it wake and examine their
slots. -/
def passTo (r : WaitRoom A) (time : Moment) : WaitRoom A :=
  let late := (List.range r.waiters.length).filter fun i =>
    r.waiters[i]?.any (expiresBefore time)
  (r.follow (.tick (time - r.now) :: late.map .expire)).examineAll

/-- A move at a moment, the notification that it may owe, and what the waiters find then. -/
def play (r : WaitRoom A) (time : Moment) (move : WaitMove A) : WaitRoom A :=
  ((r.passTo time).follow [move, .notify]).examineAll

end WaitRoom

/-- What a thread does with a shared store. -/
inductive WaitScript (A : Type) where
  /-- Nothing that changes the store. -/
  | look
  /-- It performs an operation. -/
  | operate (op : StoreOp A)
  /-- It waits for a task no longer than `patience`. -/
  | await (key : TaskId) (patience : Nat)
  /-- It waits, and `delay` after the start of that another thread follows its own script. -/
  | awaitWhile (key : TaskId) (patience delay : Nat) (other : WaitScript A)

namespace WaitScript

variable {A : Type}

/-- The room after all threads of a script that starts at `time` have made their moves. -/
def moves (r : WaitRoom A) (time : Moment) : WaitScript A → WaitRoom A
  | look => r
  | operate op => r.play time (.operate op)
  | await key patience => r.play time (.arrive key (time + patience))
  | awaitWhile key patience delay other =>
    other.moves (r.play time (.arrive key (time + patience))) (time + delay)

/-- What the first waiter of a script gets, and the store after all its threads have ended. -/
def run (s : ArtifactStore A) (script : WaitScript A) : Option (Finding A) × ArtifactStore A :=
  let r := script.moves { store := s } 0
  -- All that is left to happen is that deadlines pass.
  let last := (r.waiters.map Waiter.deadline).foldl Nat.max r.now
  let r := r.passTo (last + 1)
  (r.waiters.head?.bind Waiter.answer?, r.store)

end WaitScript

end KernelDispatch
