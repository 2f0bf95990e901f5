/-
  KernelDispatch.ArtifactStore.Basic

  The store of compiled artifacts: a finite map from tasks to slots.

  A flush requests each task it needs, and the first request makes a pending
  slot. A pending slot settles once, to an artifact or to a failure, and a
  settled slot keeps its content until the entry leaves the store. At the end of
  a flush the retention decides which entries stay: none, or the most recently
  used artifacts, as many as it allows.

  Each task has at most one entry (`distinct`). `slot?` is the view of the store
  as a map from tasks to slots.
-/
import KernelDispatch.Content.TaskId
import KernelDispatch.Settings

namespace KernelDispatch

/-- What the store holds for a task. -/
inductive Slot (A : Type) where
  /-- It is being compiled. -/
  | pending
  /-- It has compiled. -/
  | ready (artifact : A)
  /-- Its compilation failed with this message. -/
  | failed (message : String)

namespace Slot

variable {A : Type}

/-- Whether the slot has not settled yet. -/
def isPending : Slot A → Bool
  | pending => true
  | _ => false

/-- Whether the slot holds an artifact. -/
def isReady : Slot A → Bool
  | ready _ => true
  | _ => false

end Slot

/-- A slot with its task, the flush that scheduled it and the last flush that used it. -/
structure Entry (A : Type) where
  key : TaskId
  slot : Slot A
  scheduledBy : Nat
  usedBy : Nat

/-- A store of artifacts of type `A`. -/
structure ArtifactStore (A : Type) where
  entries : List (Entry A)
  distinct : (entries.map Entry.key).Nodup

/-- How a requested task stands. -/
inductive Standing where
  /-- It is new: the caller has to compile it. -/
  | scheduled
  /-- It has been scheduled before and is not an artifact of an earlier flush. -/
  | shared
  /-- It is an artifact that an earlier flush scheduled. -/
  | reused
  deriving DecidableEq

/-- What waiting for an artifact comes to. -/
inductive Finding (A : Type) where
  | ready (artifact : A)
  | failed (message : String)
  | tooLate
  | missing

/-- The shown form of a standing. -/
def Standing.shown : Standing → String
  | scheduled => "Scheduled"
  | shared => "InFlight"
  | reused => "Cached"

/-- The shown form of a finding; an artifact itself is not shown. -/
def Finding.shown {A : Type} : Finding A → String
  | ready _ => "Ready"
  | failed m => Text.shownApplied "Failed" (Text.quoted m)
  | tooLate => "TimedOut"
  | missing => "Missing"

namespace ArtifactStore

variable {A : Type}

/-- The store without entries. -/
def empty : ArtifactStore A :=
  ⟨[], List.nodup_nil⟩

instance : EmptyCollection (ArtifactStore A) := ⟨empty⟩

/-! ## Views -/

/-- The entry of a task. -/
def find? (s : ArtifactStore A) (k : TaskId) : Option (Entry A) :=
  s.entries.find? (·.key = k)

/-- The slot of a task: the store as a map. -/
def slot? (s : ArtifactStore A) (k : TaskId) : Option (Slot A) :=
  (s.find? k).map Entry.slot

/-- The number of entries, settled or not. -/
def size (s : ArtifactStore A) : Nat :=
  s.entries.length

/-- The number of artifacts. -/
def readyCount (s : ArtifactStore A) : Nat :=
  s.entries.countP (·.slot.isReady)

/-- Whether there is no artifact. -/
def isEmpty (s : ArtifactStore A) : Bool :=
  s.readyCount == 0

/-- Whether the task has an artifact. -/
def contains (s : ArtifactStore A) (k : TaskId) : Bool :=
  match s.slot? k with
  | some slot => slot.isReady
  | none => false

/-- Whether the task has been scheduled and has not settled. -/
def isPending (s : ArtifactStore A) (k : TaskId) : Bool :=
  match s.slot? k with
  | some slot => slot.isPending
  | none => false

/-- The shown form: the number of entries. -/
def shown (s : ArtifactStore A) : String :=
  Text.shownRecord "ArtifactCache" [("entries", toString s.size)]

/-! ## Changing entries -/

/-- Changes every entry in place; the tasks stay. -/
def mapEntries (s : ArtifactStore A) (f : Entry A → Entry A) (h_key : ∀ e, (f e).key = e.key) :
    ArtifactStore A where
  entries := s.entries.map f
  distinct := by
    rw [List.map_map, show Entry.key ∘ f = Entry.key from funext h_key]
    exact s.distinct

/-- Adds an entry for a task that has none. -/
def add (s : ArtifactStore A) (e : Entry A) (h_new : s.find? e.key = none) : ArtifactStore A where
  entries := s.entries ++ [e]
  distinct := by
    have h_absent : ∀ x ∈ s.entries, x.key ≠ e.key := by
      simpa [find?] using h_new
    rw [List.map_append, List.nodup_append]
    refine ⟨s.distinct, by simp, ?_⟩
    intro a h_a b h_b
    obtain ⟨x, h_x, rfl⟩ := List.mem_map.1 h_a
    obtain rfl : b = e.key := by simpa using h_b
    exact h_absent x h_x

/-- Keeps the entries that pass a test. -/
def filter (s : ArtifactStore A) (p : Entry A → Bool) : ArtifactStore A where
  entries := s.entries.filter p
  distinct := s.distinct.sublist (List.filter_sublist.map _)

/-- Marks a task as used by a flush. -/
def touch (s : ArtifactStore A) (k : TaskId) (flush : Nat) : ArtifactStore A :=
  s.mapEntries (fun e => if e.key = k then { e with usedBy := flush } else e)
    (fun e => by split <;> rfl)

/-- How the task of an entry stands for a flush: reused if an earlier flush scheduled it and it is
ready, and shared otherwise. -/
def Entry.standing (e : Entry A) (flush : Nat) : Standing :=
  if e.slot.isReady && e.scheduledBy != flush then .reused else .shared

/-- Looks a task up for a flush and makes a pending entry if it has none. -/
def request (s : ArtifactStore A) (k : TaskId) (flush : Nat) : Standing × ArtifactStore A :=
  match h : s.find? k with
  | some e => (Entry.standing e flush, s.touch k flush)
  | none => (.scheduled, s.add ⟨k, .pending, flush, flush⟩ h)

/-- Puts a settled content into the slot of a task if that slot is pending, and tells
whether it did. -/
def settle (s : ArtifactStore A) (k : TaskId) (content : Slot A) : Bool × ArtifactStore A :=
  if s.isPending k then
    (true, s.mapEntries (fun e => if e.key = k then { e with slot := content } else e)
      (fun e => by split <;> rfl))
  else (false, s)

/-- Publishes an artifact; it is discarded if the slot has settled or the entry is gone. -/
def publish (s : ArtifactStore A) (k : TaskId) (artifact : A) : Bool × ArtifactStore A :=
  s.settle k (.ready artifact)

/-- Records a failed compilation, under the same condition. -/
def fail (s : ArtifactStore A) (k : TaskId) (message : String) : Bool × ArtifactStore A :=
  s.settle k (.failed message)

/-- The entry after all pending ones have failed with a message. -/
def Entry.rejectIfPending (message : String) (e : Entry A) : Entry A :=
  if e.slot.isPending then { e with slot := .failed message } else e

theorem Entry.rejectIfPending_key (message : String) (e : Entry A) :
    (Entry.rejectIfPending message e).key = e.key := by
  unfold Entry.rejectIfPending
  split <;> rfl

/-- Fails every slot that is still pending and counts them. -/
def rejectPending (s : ArtifactStore A) (message : String) : Nat × ArtifactStore A :=
  (s.entries.countP (·.slot.isPending),
    s.mapEntries (Entry.rejectIfPending message) (Entry.rejectIfPending_key message))

/-! ## The end of a flush -/

/-- Whether an entry leaves before another: the one used longer ago, and of two that were last
used by the same flush the one of lower rank. -/
def leavesBefore (rank : TaskId → Nat) (a b : Entry A) : Bool :=
  a.usedBy < b.usedBy || (a.usedBy == b.usedBy && rank a.key ≤ rank b.key)

/-- The entries sorted by the order in which they leave, without the first `n`. -/
def dropOldest (s : ArtifactStore A) (rank : TaskId → Nat) (n : Nat) : ArtifactStore A where
  entries := (s.entries.mergeSort (leavesBefore rank)).drop n
  distinct := by
    refine List.Nodup.sublist ((List.drop_sublist n _).map _) ?_
    exact ((List.mergeSort_perm s.entries (leavesBefore rank)).map Entry.key).nodup_iff.2 s.distinct

/-- Applies the retention and counts the entries that left. The rank decides between entries
that were last used by the same flush. -/
def retain (s : ArtifactStore A) (retention : Retention) (rank : TaskId → Nat) :
    Nat × ArtifactStore A :=
  match retention with
  | .untilFlushEnds => (s.size, empty)
  | .acrossFlushes maxEntries =>
    -- What has failed is forgotten, so that a later flush tries again.
    let ready := s.filter (·.slot.isReady)
    let kept :=
      if ready.size > maxEntries then ready.dropOldest rank (ready.size - maxEntries) else ready
    (s.size - kept.size, kept)

/-! ## Waiting -/

/-- What a waiter finds when it examines its slot: `none` means that it goes on waiting. -/
def examine (s : ArtifactStore A) (k : TaskId) (expired : Bool) : Option (Finding A) :=
  match s.slot? k with
  | none => some .missing
  | some (.ready a) => some (.ready a)
  | some (.failed m) => some (.failed m)
  | some .pending => if expired then some .tooLate else none

end ArtifactStore

end KernelDispatch
