/-
  KernelDispatch.ArtifactStore.Lemmas

  What each operation on the store does to the map `slot?` from tasks to slots,
  one equation per operation. A request adds a pending slot for a task without an
  entry (`slot?_request`); a settling operation changes a slot exactly if it is
  pending (`slot?_settle`, `slot?_rejectPending`). Settled slots stay as they are
  until their entries leave the store, and only artifacts outlive the end of a flush
  (`slot?_of_retain`).
-/
import Mathlib.Data.List.Nodup
import KernelDispatch.ArtifactStore.Basic

namespace KernelDispatch.ArtifactStore

variable {A : Type}

@[simp] theorem slot?_empty (k : TaskId) : (∅ : ArtifactStore A).slot? k = none := rfl

/-! ## Entries -/

theorem find?_mapEntries (s : ArtifactStore A) (f : Entry A → Entry A)
    (h_key : ∀ e, (f e).key = e.key) (k : TaskId) :
    (s.mapEntries f h_key).find? k = (s.find? k).map f := by
  simp only [find?, mapEntries, List.find?_map]
  congr 1
  apply congrArg (List.find? · s.entries)
  funext e
  simp [h_key]

theorem find?_add (s : ArtifactStore A) (e : Entry A) (h_new : s.find? e.key = none)
    (k : TaskId) : (s.add e h_new).find? k = if e.key = k then some e else s.find? k := by
  simp only [find?, add, List.find?_append]
  split
  · next h =>
    subst h
    simp [show s.entries.find? (·.key = e.key) = none from h_new]
  · next h => simp [h]

theorem key_of_find? {s : ArtifactStore A} {k : TaskId} {e : Entry A} (h : s.find? k = some e) :
    e.key = k := by
  simpa using List.find?_some h

/-! ## Slots -/

theorem slot?_touch (s : ArtifactStore A) (k : TaskId) (flush : Nat) (x : TaskId) :
    (s.touch k flush).slot? x = s.slot? x := by
  simp only [slot?, touch, find?_mapEntries, Option.map_map]
  congr 1
  funext e
  simp only [Function.comp]
  split <;> rfl

/-- A request gives a task without an entry a pending slot and changes no other slot. -/
theorem slot?_request (s : ArtifactStore A) (k : TaskId) (flush : Nat) (x : TaskId) :
    (s.request k flush).2.slot? x =
      if x = k ∧ s.slot? k = none then some .pending else s.slot? x := by
  unfold request
  split
  · next e h =>
    rw [slot?_touch]
    simp [slot?, h]
  · next h =>
    simp only [slot?, find?_add, h]
    by_cases h_x : k = x
    · simp [h_x]
    · simp [h_x, Ne.symm h_x]

/-- The answer to a request is `scheduled` exactly for a task without an entry. -/
theorem request_eq_scheduled_iff (s : ArtifactStore A) (k : TaskId) (flush : Nat) :
    (s.request k flush).1 = .scheduled ↔ s.slot? k = none := by
  unfold request
  split
  · next e h =>
    simp only [slot?, h, Option.map_some, reduceCtorEq, iff_false]
    unfold Entry.standing
    split <;> simp
  · next h => simp [slot?, h]

theorem request_of_find? {s : ArtifactStore A} {k : TaskId} {e : Entry A} (n : Nat)
    (h : s.find? k = some e) : (s.request k n).1 = Entry.standing e n := by
  unfold request
  split
  · next e' h' =>
    obtain rfl := Option.some.inj (h.symm.trans h')
    rfl
  · next h' => simp [h] at h'

/-- Only a pending slot settles, and no other slot changes. -/
theorem slot?_settle (s : ArtifactStore A) (k : TaskId) (content : Slot A) (x : TaskId) :
    (s.settle k content).2.slot? x =
      if x = k ∧ s.isPending k then some content else s.slot? x := by
  unfold settle
  split
  · next h =>
    simp only [slot?, find?_mapEntries, Option.map_map, h, and_true]
    cases h_find : s.find? x with
    | none =>
      have h_ne : x ≠ k := by
        rintro rfl
        simp [isPending, slot?, h_find] at h
      simp [h_ne]
    | some e =>
      have h_key := key_of_find? h_find
      by_cases h_x : x = k
      · simp [h_key, h_x]
      · simp [h_key, h_x]
  · next h => simp [h]

/-- The answer of a settling operation tells whether the slot was pending. -/
theorem settle_changed (s : ArtifactStore A) (k : TaskId) (content : Slot A) :
    (s.settle k content).1 = s.isPending k := by
  unfold settle
  split
  · next h => simp [h]
  · next h => simp [h]

/-- Every pending slot fails, and no other slot changes. -/
theorem slot?_rejectPending (s : ArtifactStore A) (message : String) (x : TaskId) :
    (s.rejectPending message).2.slot? x =
      (s.slot? x).map fun slot => if slot.isPending then .failed message else slot := by
  simp only [slot?, rejectPending, find?_mapEntries, Option.map_map]
  congr 1
  funext e
  simp only [Function.comp, Entry.rejectIfPending]
  split <;> rfl

theorem isPending_iff {s : ArtifactStore A} {k : TaskId} :
    s.isPending k = true ↔ s.slot? k = some .pending := by
  unfold isPending
  cases h : s.slot? k with
  | none => simp
  | some slot => cases slot <;> simp [Slot.isPending]

/-! ## The end of a flush -/

/-- Each task has one entry at most, so its entry is found wherever it stands. -/
theorem find?_eq_some_iff {s : ArtifactStore A} {k : TaskId} {e : Entry A} :
    s.find? k = some e ↔ e ∈ s.entries ∧ e.key = k := by
  constructor
  · intro h
    exact ⟨List.mem_of_find?_eq_some h, key_of_find? h⟩
  · rintro ⟨h_mem, rfl⟩
    cases h_find : s.find? e.key with
    | none =>
      have h_absent := List.find?_eq_none.1 h_find e h_mem
      simp at h_absent
    | some e' =>
      have h_key := key_of_find? h_find
      have h_mem' := List.mem_of_find?_eq_some h_find
      rw [List.inj_on_of_nodup_map s.distinct h_mem' h_mem h_key]

/-- Every entry is the one that stands for its task. -/
theorem slot?_of_mem {s : ArtifactStore A} {e : Entry A} (h : e ∈ s.entries) :
    s.slot? e.key = some e.slot := by
  rw [slot?, find?_eq_some_iff.2 ⟨h, rfl⟩, Option.map_some]

/-- An entry that is still there after the end of a flush is that of an artifact, and it was there
before. -/
theorem find?_of_retain {s : ArtifactStore A} {retention : Retention} {rank : TaskId → Nat}
    {k : TaskId} {e : Entry A} (h : (s.retain retention rank).2.find? k = some e) :
    s.find? k = some e ∧ e.slot.isReady = true := by
  obtain ⟨h_mem, h_key⟩ := find?_eq_some_iff.1 h
  suffices h_entry : e ∈ s.entries ∧ e.slot.isReady = true by
    exact ⟨find?_eq_some_iff.2 ⟨h_entry.1, h_key⟩, h_entry.2⟩
  cases retention with
  | untilFlushEnds => simp [retain, empty] at h_mem
  | acrossFlushes maxEntries =>
    simp only [retain] at h_mem
    split at h_mem
    · have h_sorted := List.mem_of_mem_drop h_mem
      rw [List.mem_mergeSort] at h_sorted
      exact List.mem_filter.1 h_sorted
    · exact List.mem_filter.1 h_mem

/-- What is still there after the end of a flush is an artifact that was there before. -/
theorem slot?_of_retain {s : ArtifactStore A} {retention : Retention} {rank : TaskId → Nat}
    {k : TaskId} {slot : Slot A} (h : (s.retain retention rank).2.slot? k = some slot) :
    slot.isReady = true ∧ s.slot? k = some slot := by
  obtain ⟨e, h_find, rfl⟩ := Option.map_eq_some_iff.1 h
  obtain ⟨h_before, h_ready⟩ := find?_of_retain h_find
  exact ⟨h_ready, Option.map_eq_some_iff.2 ⟨e, h_before, rfl⟩⟩

end KernelDispatch.ArtifactStore
