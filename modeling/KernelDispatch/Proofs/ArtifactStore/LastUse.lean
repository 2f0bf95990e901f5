/-
  KernelDispatch.Proofs.ArtifactStore.LastUse

  Which flush has used an entry last, and what that is worth at the end of a flush.

  A request stamps its task with the number of the flush (`user?_request`); nothing
  else changes a stamp. The retention drops an artifact only if it keeps as many as
  its limit allows, and each of those has been used no longer ago. So an artifact stays
  as long as the tasks used since its own last use, with its own, fit into the limit
  (`find?_retain_of_recent`).
-/
import Mathlib.Data.Finset.Card
import KernelDispatch.Proofs.ArtifactStore.Retention

namespace KernelDispatch

/-- A sorted list keeps an element among its last ones if few elements rank as high as some rank
that the element reaches. -/
theorem mem_drop_of_few {α : Type} {xs : List α} {rank : α → Nat} {limit n : Nat} {x : α}
    (h_sorted : xs.Pairwise fun a b => rank a ≤ rank b) (h_x : x ∈ xs) (h_n : n ≤ rank x)
    (h_few : xs.countP (n ≤ rank ·) ≤ limit) : x ∈ xs.drop (xs.length - limit) := by
  have h_split := List.take_append_drop (xs.length - limit) xs
  by_contra h_drop
  have h_take : x ∈ xs.take (xs.length - limit) := by
    rw [← h_split, List.mem_append] at h_x
    exact h_x.resolve_right h_drop
  -- Everything after the element ranks as high, and that is `limit` elements besides itself.
  have h_back : (xs.drop (xs.length - limit)).countP (n ≤ rank ·) =
      (xs.drop (xs.length - limit)).length := by
    refine List.countP_eq_length.2 fun a h_a => decide_eq_true ?_
    rw [← h_split, List.pairwise_append] at h_sorted
    exact Nat.le_trans h_n (h_sorted.2.2 x h_take a h_a)
  have h_front : 0 < (xs.take (xs.length - limit)).countP (n ≤ rank ·) :=
    List.countP_pos_iff.2 ⟨x, h_take, decide_eq_true h_n⟩
  have h_some := List.length_pos_of_mem h_take
  rw [← h_split, List.countP_append, h_back, List.length_drop] at h_few
  rw [List.length_take] at h_some
  omega

namespace ArtifactStore

variable {A : Type} {s : ArtifactStore A} {e : Entry A} {k x : TaskId} {n : Nat}

/-- The last flush that has used a task. -/
def user? (s : ArtifactStore A) (k : TaskId) : Option Nat :=
  (s.find? k).map Entry.usedBy

theorem user?_mapEntries (s : ArtifactStore A) (g : Entry A → Entry A)
    (h_key : ∀ e, (g e).key = e.key) (h_same : ∀ e, (g e).usedBy = e.usedBy) (k : TaskId) :
    (s.mapEntries g h_key).user? k = s.user? k := by
  rw [user?, find?_mapEntries, Option.map_map, show Entry.usedBy ∘ g = Entry.usedBy
    from funext h_same, user?]

theorem user?_settle (s : ArtifactStore A) (k : TaskId) (content : Slot A) (x : TaskId) :
    (s.settle k content).2.user? x = s.user? x := by
  unfold settle
  split
  · exact user?_mapEntries s _ (fun e => by split <;> rfl) (fun e => by split <;> rfl) x
  · rfl

theorem user?_rejectPending (s : ArtifactStore A) (message : String) (x : TaskId) :
    (s.rejectPending message).2.user? x = s.user? x :=
  user?_mapEntries s _ (Entry.rejectIfPending_key message)
    (fun e => by unfold Entry.rejectIfPending; split <;> rfl) x

/-- A request stamps its task. -/
theorem user?_request (s : ArtifactStore A) (k : TaskId) (n : Nat) (x : TaskId) :
    (s.request k n).2.user? x = if x = k then some n else s.user? x := by
  unfold request
  split
  · next e h =>
    simp only [user?, touch, find?_mapEntries, Option.map_map]
    by_cases h_x : x = k
    · subst h_x
      simp [h, key_of_find? h]
    · rw [if_neg h_x]
      cases h_find : s.find? x with
      | none => rfl
      | some e' => simp [key_of_find? h_find, h_x]
  · next h =>
    by_cases h_x : x = k
    · simp [user?, find?_add, h_x]
    · simp [user?, find?_add, h_x, Ne.symm h_x]

theorem contains_iff : s.contains k = true ↔ ∃ a, s.slot? k = some (.ready a) := by
  unfold contains
  cases h : s.slot? k with
  | none => simp
  | some slot => cases slot <;> simp [Slot.isReady]

/-- An artifact stays when a slot is settled. -/
theorem ready_settle {a : A} (h : s.slot? x = some (.ready a)) (k : TaskId) (content : Slot A) :
    (s.settle k content).2.slot? x = some (.ready a) := by
  rw [slot?_settle, if_neg, h]
  rintro ⟨rfl, h_pending⟩
  rw [isPending_iff, h] at h_pending
  cases h_pending

/-- An artifact stays when a task is requested. -/
theorem ready_request {a : A} (h : s.slot? x = some (.ready a)) (k : TaskId) (n : Nat) :
    (s.request k n).2.slot? x = some (.ready a) := by
  rw [slot?_request, if_neg, h]
  rintro ⟨rfl, h_none⟩
  simp [h] at h_none

/-- An artifact stays when all pending slots fail. -/
theorem ready_rejectPending {a : A} (h : s.slot? x = some (.ready a)) (message : String) :
    (s.rejectPending message).2.slot? x = some (.ready a) := by
  rw [slot?_rejectPending, h]
  rfl

theorem user?_of_retain {retention : Retention} {rank : TaskId → Nat}
    (h : (s.retain retention rank).2.user? x = some n) : s.user? x = some n := by
  obtain ⟨e, h_find, rfl⟩ := Option.map_eq_some_iff.1 h
  exact Option.map_eq_some_iff.2 ⟨e, (find?_of_retain h_find).1, rfl⟩

/-- The artifacts used since flush `n` are no more than the tasks used since then. -/
theorem countP_artifacts_le {recent : Finset TaskId}
    (h_recent : ∀ x m, s.user? x = some m → n ≤ m → x ∈ recent) :
    s.artifacts.countP (n ≤ ·.usedBy) ≤ recent.card := by
  have h_sublist : (s.artifacts.filter (n ≤ ·.usedBy)).Sublist s.entries :=
    List.filter_sublist.trans List.filter_sublist
  have h_distinct := s.distinct.sublist (h_sublist.map Entry.key)
  calc s.artifacts.countP (n ≤ ·.usedBy)
      = ((s.artifacts.filter (n ≤ ·.usedBy)).map Entry.key).length := by
        rw [List.length_map, List.countP_eq_length_filter]
    _ = ((s.artifacts.filter (n ≤ ·.usedBy)).map Entry.key).toFinset.card :=
        (List.toFinset_card_of_nodup h_distinct).symm
    _ ≤ recent.card := by
        refine Finset.card_le_card fun x h_x => ?_
        obtain ⟨e, h_e, rfl⟩ := List.mem_map.1 (List.mem_toFinset.1 h_x)
        have h_find := find?_eq_some_iff.2 ⟨h_sublist.mem h_e, rfl⟩
        refine h_recent e.key e.usedBy ?_ (by simpa using (List.mem_filter.1 h_e).2)
        rw [user?, h_find, Option.map_some]

/-- An artifact used by flush `n` or later stays if the tasks used since then fit into the limit of
the retention. -/
theorem find?_retain_of_recent {retention : Retention} {rank : TaskId → Nat}
    {recent : Finset TaskId} (h_find : s.find? k = some e) (h_ready : e.slot.isReady = true)
    (h_n : n ≤ e.usedBy) (h_recent : ∀ x m, s.user? x = some m → n ≤ m → x ∈ recent)
    (h_few : recent.card ≤ retention.limit) :
    (s.retain retention rank).2.find? k = some e := by
  obtain ⟨h_mem, h_key⟩ := find?_eq_some_iff.1 h_find
  have h_perm := List.mergeSort_perm s.artifacts (leavesBefore rank)
  have h_sorted := (List.pairwise_mergeSort (leavesBefore_trans rank) (leavesBefore_total rank)
    s.artifacts).imp usedBy_le_of_leavesBefore
  have h_artifact : e ∈ s.artifacts := List.mem_filter.2 ⟨h_mem, h_ready⟩
  refine find?_eq_some_iff.2 ⟨((s.entries_retain_perm retention rank).mem_iff).2 ?_, h_key⟩
  rw [← h_perm.length_eq]
  refine mem_drop_of_few h_sorted (h_perm.mem_iff.2 h_artifact) h_n ?_
  rw [h_perm.countP_eq]
  exact Nat.le_trans (countP_artifacts_le h_recent) h_few

end ArtifactStore

end KernelDispatch
