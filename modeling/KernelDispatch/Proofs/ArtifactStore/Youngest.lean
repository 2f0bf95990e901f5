/-
  KernelDispatch.Proofs.ArtifactStore.Youngest

  What a store is left with when a limited number of artifacts outlives a flush.

  The artifacts that leave (`outgoing`) are the front part of the list sorted by last
  use and those that stay are the rest of it (`artifacts_perm`), so none of the first
  has been used later than one of the second (`usedBy_outgoing_le`). An artifact leaves
  by its task, and a task with the same digest and another text is no concern of it
  (`find?_retain`). What is left already meets the limit, so another retention finds
  nothing to do (`retain_acrossFlushes_eq_self`).
-/
import KernelDispatch.Proofs.ArtifactStore.Retention
import KernelDispatch.ArtifactStore.Operation

namespace KernelDispatch.ArtifactStore

variable {A : Type} {s : ArtifactStore A} {k : TaskId} {e : Entry A} {maxEntries : Nat}

/-! ## The artifacts that leave -/

/-- The artifacts that leave at the end of a flush, those last used longest ago first. -/
def outgoing (s : ArtifactStore A) (retention : Retention) (rank : TaskId → Nat) :
    List (Entry A) :=
  (s.artifacts.mergeSort (leavesBefore rank)).take (s.artifacts.length - retention.limit)

/-- Each artifact leaves or stays. -/
theorem artifacts_perm (s : ArtifactStore A) (retention : Retention) (rank : TaskId → Nat) :
    s.artifacts.Perm (s.outgoing retention rank ++ (s.retain retention rank).2.entries) := by
  refine (List.mergeSort_perm s.artifacts (leavesBefore rank)).symm.trans ?_
  refine .trans ?_ ((s.entries_retain_perm retention rank).symm.append_left _)
  rw [outgoing, List.take_append_drop]

theorem usedBy_outgoing_le {retention : Retention} {rank : TaskId → Nat} {e' : Entry A}
    (h_e : e ∈ s.outgoing retention rank) (h_e' : e' ∈ (s.retain retention rank).2.entries) :
    e.usedBy ≤ e'.usedBy := by
  have h_sorted := (List.pairwise_mergeSort (leavesBefore_trans rank) (leavesBefore_total rank)
    s.artifacts).imp usedBy_le_of_leavesBefore
  rw [← List.take_append_drop (s.artifacts.length - retention.limit) (s.artifacts.mergeSort _),
    List.pairwise_append] at h_sorted
  exact h_sorted.2.2 e h_e e' ((s.entries_retain_perm retention rank).mem_iff.1 h_e')

theorem readyCount_eq (s : ArtifactStore A) : s.readyCount = s.artifacts.length :=
  List.countP_eq_length_filter

/-- What the retention leaves is the artifacts, without those of the tasks that leave. -/
theorem find?_retain (s : ArtifactStore A) (retention : Retention) (rank : TaskId → Nat)
    (k : TaskId) : (s.retain retention rank).2.find? k =
      if k ∈ (s.outgoing retention rank).map Entry.key then none
      else (s.filter (·.slot.isReady)).find? k := by
  have h_perm := s.artifacts_perm retention rank
  have h_distinct := (h_perm.map Entry.key).nodup_iff.1 (s.filter (·.slot.isReady)).distinct
  rw [List.map_append, List.nodup_append] at h_distinct
  obtain ⟨-, -, h_apart⟩ := h_distinct
  refine Option.ext fun e => ?_
  rw [find?_eq_some_iff]
  split
  · next h_out =>
    refine iff_of_false (fun ⟨h_e, h_key⟩ => ?_) nofun
    exact h_apart k h_out e.key (List.mem_map_of_mem h_e) h_key.symm
  · next h_out =>
    rw [find?_eq_some_iff]
    refine and_congr_left fun h_key => ?_
    have h_e : e ∉ s.outgoing retention rank := fun h =>
      h_out (h_key ▸ List.mem_map_of_mem h)
    exact ((h_perm.mem_iff (a := e)).trans (by simp [h_e])).symm

/-- An artifact that is gone after the end of the flush is one of those that left. -/
theorem mem_outgoing {retention : Retention} {rank : TaskId → Nat} (h_find : s.find? k = some e)
    (h_ready : e.slot.isReady = true) (h_gone : (s.retain retention rank).2.find? k = none) :
    e ∈ s.outgoing retention rank := by
  obtain ⟨h_mem, h_key⟩ := find?_eq_some_iff.1 h_find
  have h_artifact : e ∈ s.artifacts := List.mem_filter.2 ⟨h_mem, h_ready⟩
  rw [(s.artifacts_perm retention rank).mem_iff, List.mem_append] at h_artifact
  refine h_artifact.resolve_right fun h_stays => ?_
  rw [find?_eq_some_iff.2 ⟨h_stays, h_key⟩] at h_gone
  cases h_gone

/-! ## A limited number of artifacts -/

theorem size_retain_acrossFlushes (s : ArtifactStore A) (maxEntries : Nat)
    (rank : TaskId → Nat) :
    (s.retain (.acrossFlushes maxEntries) rank).2.size = min maxEntries s.readyCount := by
  rw [size, (s.entries_retain_perm (.acrossFlushes maxEntries) rank).length_eq, List.length_drop,
    List.length_mergeSort, readyCount_eq, Retention.limit]
  omega

/-- Artifacts within the limit all stay, and where they are. -/
theorem retain_acrossFlushes_eq_self (rank : TaskId → Nat)
    (h_ready : ∀ e ∈ s.entries, e.slot.isReady = true) (h_few : s.size ≤ maxEntries) :
    s.retain (.acrossFlushes maxEntries) rank = (0, s) := by
  have h_filter : s.filter (·.slot.isReady) = s := by
    unfold filter
    congr 1
    exact List.filter_eq_self.2 h_ready
  simp only [retain, h_filter]
  rw [if_neg (Nat.not_lt.2 h_few), Nat.sub_self]

/-- What a retention makes of a store if it lets this many artifacts outlive a flush: the store that
is left, and how many entries it says have left. -/
structure KeepsYoungest (maxEntries : Nat) (s : ArtifactStore A) (left : Nat)
    (kept : ArtifactStore A) : Prop where
  /-- As many artifacts stay as the limit allows. -/
  size : kept.size = min maxEntries s.readyCount
  /-- What stays is an artifact, and all of its entry is as before. -/
  unchanged : ∀ k e, kept.find? k = some e → s.find? k = some e ∧ e.slot.isReady = true
  /-- No artifact that left was used later than one that stays. -/
  youngest : ∀ k e, s.find? k = some e → e.slot.isReady = true → kept.find? k = none →
    ∀ k' e', kept.find? k' = some e' → e.usedBy ≤ e'.usedBy
  /-- The entries that are no longer there are counted. -/
  counted : left + kept.size = s.size
  /-- The same retention has nothing more to do, whatever the ranks. -/
  again : ∀ rank, kept.retain (.acrossFlushes maxEntries) rank = (0, kept)

/-- Any store and any limit. At the end of a flush the youngest artifacts stay, as many as the limit
allows, and nothing else does; it is counted what left; and to do it again changes nothing. -/
theorem retain_keeps_youngest (s : ArtifactStore A) (maxEntries : Nat) (rank : TaskId → Nat) :
    KeepsYoungest maxEntries s (s.retain (.acrossFlushes maxEntries) rank).1
      (s.retain (.acrossFlushes maxEntries) rank).2 where
  size := s.size_retain_acrossFlushes maxEntries rank
  unchanged _ _ := find?_of_retain
  youngest := by
    intro k e h_find h_ready h_gone k' e' h_find'
    exact usedBy_outgoing_le (mem_outgoing h_find h_ready h_gone)
      (find?_eq_some_iff.1 h_find').1
  counted := by
    have h_few : (s.retain (.acrossFlushes maxEntries) rank).2.size ≤ s.size := by
      rw [size_retain_acrossFlushes]
      exact Nat.le_trans (Nat.min_le_right ..) List.countP_le_length
    exact Nat.sub_add_cancel h_few
  again rank' := by
    refine retain_acrossFlushes_eq_self rank' (fun e h_e => ?_) ?_
    · exact (find?_of_retain (find?_eq_some_iff.2 ⟨h_e, rfl⟩)).2
    · rw [size_retain_acrossFlushes]
      exact Nat.min_le_left ..

/-- Two texts with one digest were last used by the first flush and a third one by the second; a
fourth has failed and a fifth is pending. -/
def fiveTexts : ArtifactStore Nat :=
  StoreOp.run ∅ [.request (.ofText "rcaelumdduab") 1, .request (.ofText "aaqaaaaaaaja") 1,
    .request (.ofText "c") 2, .request (.ofText "d") 2, .request (.ofText "e") 2,
    .publish (.ofText "rcaelumdduab") 3, .publish (.ofText "aaqaaaaaaaja") 4,
    .publish (.ofText "c") 5, .fail (.ofText "d") "no"]

/-- With room for two, one of the two texts with one digest leaves, and the other one stays. -/
theorem two_youngest_of_five_texts :
    (fiveTexts.retain (.acrossFlushes 2) fun _ => 0).1 + 2 = 5 ∧
      (fiveTexts.retain (.acrossFlushes 2) fun _ => 0).2.contains (.ofText "rcaelumdduab") = false ∧
      (fiveTexts.retain (.acrossFlushes 2) fun _ => 0).2.contains (.ofText "aaqaaaaaaaja") =
        true := by
  have h_keeps := fiveTexts.retain_keeps_youngest 2 fun _ => 0
  have h_size : (fiveTexts.retain (.acrossFlushes 2) fun _ => 0).2.size = 2 :=
    h_keeps.size.trans (by decide +kernel)
  have h_counted := h_keeps.counted
  rw [h_size] at h_counted
  have h_outgoing : fiveTexts.outgoing (.acrossFlushes 2) (fun _ => 0) =
      fiveTexts.artifacts.take (fiveTexts.artifacts.length - 2) := by
    have h_sorted : fiveTexts.artifacts.mergeSort (leavesBefore fun _ => 0) = fiveTexts.artifacts :=
      List.mergeSort_of_pairwise (by decide +kernel)
    rw [outgoing, h_sorted, Retention.limit]
  refine ⟨h_counted.trans (by decide +kernel), ?_, ?_⟩
  · rw [contains, slot?, find?_retain, h_outgoing]
    decide +kernel
  · rw [contains, slot?, find?_retain, h_outgoing]
    decide +kernel

end KernelDispatch.ArtifactStore
