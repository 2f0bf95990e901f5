/-
  KernelDispatch.Proofs.Content.Sightings

  What has been seen of some tasks that were met in order.

  The first task with a digest stands for it, and a task has collided if another one stands
  for its digest (`Sightings.Of`). So a task that is met again is no collision, and one that
  is new collides with the first task with its digest, if there is one (`clash?`). A new task
  either has a new digest or collides, so there are as many collisions as there are more texts
  than digests (`Sightings.Of.total`).
-/
import Mathlib.Data.Finset.Card
import KernelDispatch.Content.Sightings

namespace KernelDispatch

/-- The distinct texts of some tasks. -/
def distinctTexts (ks : List TaskId) : Finset String :=
  (ks.map TaskId.text).toFinset

/-- The distinct digests of some tasks. -/
def distinctDigests (ks : List TaskId) : Finset Digest :=
  (ks.map TaskId.digest).toFinset

/-- The task that a task collides with when it is met after these. -/
def clash? (ks : List TaskId) (k : TaskId) : Option TaskId :=
  if k ∈ ks then none else ks.find? (·.digest = k.digest)

/-- The task that a task collides with when it is met for the first time among these. -/
def firstClash? (ks : List TaskId) (k : TaskId) : Option TaskId :=
  if k ∈ ks then (ks.take (ks.idxOf k)).find? (·.digest = k.digest) else none

variable {ks : List TaskId} {k : TaskId} {s : Sightings}

/-- A task is met for the first time once. -/
theorem firstClash?_concat (ks : List TaskId) (k key : TaskId) :
    (firstClash? (ks ++ [k]) key).toList =
      (firstClash? ks key).toList ++ if key = k then (clash? ks k).toList else [] := by
  by_cases h_old : key ∈ ks
  · have h_take : (ks ++ [k]).take ((ks ++ [k]).idxOf key) = ks.take (ks.idxOf key) := by
      rw [List.idxOf_append_of_mem h_old,
        List.take_append_of_le_length (List.idxOf_lt_length_of_mem h_old).le]
    have h_known : (if key = k then (clash? ks k).toList else []) = [] := by
      split
      · next h_key => rw [clash?, if_pos (h_key ▸ h_old), Option.toList_none]
      · rfl
    rw [firstClash?, if_pos (List.mem_append_left _ h_old), h_take, firstClash?, if_pos h_old,
      h_known, List.append_nil]
  · rw [firstClash?, firstClash?, if_neg h_old, Option.toList_none, List.nil_append]
    by_cases h_key : key = k
    · subst h_key
      have h_take : (ks ++ [key]).take ((ks ++ [key]).idxOf key) = ks := by
        rw [List.idxOf_append_of_notMem h_old]
        simp
      rw [if_pos (List.mem_append_right _ (List.mem_singleton_self _)), h_take, if_pos rfl, clash?,
        if_neg h_old]
    · rw [if_neg (by simp [h_old, h_key]), if_neg h_key, Option.toList_none]

/-! ## One more task -/

/-- Some task stands for the digest of a task that has been met. -/
theorem find?_digest_ne_none (h_k : k ∈ ks) : ks.find? (·.digest = k.digest) ≠ none := by
  intro h_none
  simpa using List.find?_eq_none.1 h_none k h_k

/-- A task that comes later stands for its digest only if that is new. -/
theorem find?_digest_concat (ks : List TaskId) (k : TaskId) (d : Digest) :
    (ks ++ [k]).find? (·.digest = d) =
      (ks.find? (·.digest = d)).or (if k.digest = d then some k else none) := by
  rw [List.find?_append, List.find?_singleton]
  simp

/-- Of the tasks for whose digest another one stands, the one that comes is one more if it
collides. -/
theorem stoodFor_concat (ks : List TaskId) (k x : TaskId) :
    (x ∈ ks ++ [k] ∧ (ks ++ [k]).find? (·.digest = x.digest) ≠ some x) ↔
      (x ∈ ks ∧ ks.find? (·.digest = x.digest) ≠ some x) ∨ x = k ∧ clash? ks k ≠ none := by
  rw [find?_digest_concat]
  by_cases h_x : x ∈ ks
  · obtain ⟨f, h_find⟩ := Option.ne_none_iff_exists'.1 (find?_digest_ne_none h_x)
    have h_known : ¬ (x = k ∧ clash? ks k ≠ none) := by
      rintro ⟨rfl, h_clash⟩
      exact h_clash (if_pos h_x)
    simp [h_x, h_find, h_known]
  · by_cases h_k : x = k
    · subst h_k
      cases h_find : ks.find? (·.digest = x.digest) with
      | none => simp [clash?, h_x, h_find]
      | some f =>
        have h_f : f ≠ x := by
          rintro rfl
          exact h_x (List.mem_of_find?_eq_some h_find)
        simp [clash?, h_x, h_find, h_f]
    · simp [h_x, h_k]

theorem card_toFinset_concat {α : Type} [DecidableEq α] (f : TaskId → α) (ks : List TaskId)
    (k : TaskId) : ((ks ++ [k]).map f).toFinset.card =
      (ks.map f).toFinset.card + if f k ∈ ks.map f then 0 else 1 := by
  rw [List.map_append, List.toFinset_append, List.map_singleton, List.toFinset_cons,
    List.toFinset_nil, insert_empty_eq, Finset.union_comm, ← Finset.insert_eq]
  split
  · next h => rw [Finset.insert_eq_of_mem (List.mem_toFinset.2 h), Nat.add_zero]
  · next h => rw [Finset.card_insert_of_notMem fun h' => h (List.mem_toFinset.1 h')]

theorem card_distinctTexts_concat (ks : List TaskId) (k : TaskId) :
    (distinctTexts (ks ++ [k])).card = (distinctTexts ks).card + if k ∈ ks then 0 else 1 := by
  have h_text : k.text ∈ ks.map TaskId.text ↔ k ∈ ks := by simp [← TaskId.eq_iff_text_eq]
  rw [distinctTexts, card_toFinset_concat, distinctTexts]
  simp only [h_text]

theorem card_distinctDigests_concat (ks : List TaskId) (k : TaskId) :
    (distinctDigests (ks ++ [k])).card =
      (distinctDigests ks).card + if ks.find? (·.digest = k.digest) = none then 1 else 0 := by
  have h_digest : k.digest ∈ ks.map TaskId.digest ↔ ¬ ks.find? (·.digest = k.digest) = none := by
    simp [List.find?_eq_none]
  rw [distinctDigests, card_toFinset_concat, distinctDigests]
  simp only [h_digest, ite_not]

namespace Sightings

/-- What has been seen when these tasks have been met. -/
structure Of (ks : List TaskId) (s : Sightings) : Prop where
  /-- The first task with a digest stands for it. -/
  first : ∀ d, s.first? d = ks.find? (·.digest = d)
  /-- A task has collided if another one stands for its digest. -/
  collided : ∀ k, k ∈ s.collided ↔ k ∈ ks ∧ ks.find? (·.digest = k.digest) ≠ some k
  /-- There are as many collisions as there are more texts than digests. -/
  total : s.collisions + (distinctDigests ks).card = (distinctTexts ks).card

theorem Of.nil : Of [] {} where
  first _ := rfl
  collided _ := by simp
  total := rfl

/-! ## Meeting a task -/

/-- A task that is met again stands for its digest, or it has collided before. -/
theorem Of.meet_known (h : Of ks s) (h_k : k ∈ ks) : s.meet k = (none, s) := by
  obtain ⟨f, h_find⟩ := Option.ne_none_iff_exists'.1 (find?_digest_ne_none h_k)
  have h_no : (f.clashesWith k && !s.collided.contains k) = false := by
    by_cases h_f : f = k
    · simp [h_f, TaskId.clashesWith]
    · have h_collided : k ∈ s.collided := (h.collided k).2 ⟨h_k, by simpa [h_find] using h_f⟩
      simp [h_collided]
  unfold meet
  rw [h.first, h_find]
  exact if_neg (by rw [h_no]; exact Bool.false_ne_true)

/-- A task whose digest is new stands for it. -/
theorem Of.meet_new (h : Of ks s) (h_find : ks.find? (·.digest = k.digest) = none) :
    s.meet k = (none, { s with first := s.first ++ [k] }) := by
  unfold meet
  rw [h.first, h_find]

/-- A task that is new collides with the one that stands for its digest. -/
theorem Of.meet_clash (h : Of ks s) (h_k : k ∉ ks) {f : TaskId}
    (h_find : ks.find? (·.digest = k.digest) = some f) :
    s.meet k = (some f, { s with collided := k :: s.collided }) := by
  have h_digest : f.digest = k.digest := by simpa using List.find?_some h_find
  have h_f : f ≠ k := by
    rintro rfl
    exact h_k (List.mem_of_find?_eq_some h_find)
  have h_new : k ∉ s.collided := fun h_mem => h_k ((h.collided k).1 h_mem).1
  unfold meet
  rw [h.first, h_find]
  refine if_pos ?_
  simpa [TaskId.clashesWith, h_digest, h_new, ← TaskId.eq_iff_text_eq] using h_f

/-- The answer to the meeting with a task. -/
theorem Of.meet_eq (h : Of ks s) (k : TaskId) : (s.meet k).1 = clash? ks k := by
  by_cases h_k : k ∈ ks
  · rw [h.meet_known h_k, clash?, if_pos h_k]
  · rw [clash?, if_neg h_k]
    cases h_find : ks.find? (·.digest = k.digest) with
    | none => rw [h.meet_new h_find]
    | some f => rw [h.meet_clash h_k h_find]

/-- One more task is met. -/
theorem Of.concat (h : Of ks s) (k : TaskId) : Of (ks ++ [k]) (s.meet k).2 := by
  have h_total := h.total
  have h_texts := card_distinctTexts_concat ks k
  have h_digests := card_distinctDigests_concat ks k
  by_cases h_k : k ∈ ks
  · have h_find := find?_digest_ne_none h_k
    rw [if_pos h_k] at h_texts
    rw [if_neg h_find] at h_digests
    rw [h.meet_known h_k]
    refine ⟨fun d => ?_, fun x => ?_, by rw [h_texts, h_digests]; exact h_total⟩
    · rw [find?_digest_concat, h.first]
      split
      · next h_d => rw [Option.or_of_isSome (Option.isSome_iff_ne_none.2 (h_d ▸ h_find))]
      · rw [Option.or_none]
    · rw [stoodFor_concat, clash?, if_pos h_k, h.collided]
      simp
  · rw [if_neg h_k] at h_texts
    cases h_find : ks.find? (·.digest = k.digest) with
    | none =>
      rw [if_pos h_find] at h_digests
      rw [h.meet_new h_find]
      refine ⟨fun d => ?_, fun x => ?_, ?_⟩
      · rw [find?_digest_concat, ← h.first, first?, List.find?_append, first?]
        congr 1
        by_cases h_d : k.digest = d <;> simp [h_d]
      · rw [stoodFor_concat, clash?, if_neg h_k, h_find, h.collided]
        simp
      · rw [h_texts, h_digests, ← h_total]
        exact (Nat.add_assoc ..).symm
    | some f =>
      rw [if_neg (by simp [h_find])] at h_digests
      rw [h.meet_clash h_k h_find]
      refine ⟨fun d => ?_, fun x => ?_, ?_⟩
      · rw [find?_digest_concat, ← h.first]
        split
        · next h_d =>
          have h_some : s.first? d = some f := by rw [h.first, ← h_d, h_find]
          rw [h_some, Option.some_or]
          exact h_some
        · rw [Option.or_none]
          rfl
      · rw [stoodFor_concat, clash?, if_neg h_k, h_find, List.mem_cons, h.collided, or_comm]
        simp
      · rw [h_texts, h_digests, ← h_total]
        exact Nat.succ_add ..

theorem meetAll_concat (s : Sightings) (ks : List TaskId) (k : TaskId) :
    s.meetAll (ks ++ [k]) = ((s.meetAll ks).meet k).2 := by
  rw [meetAll, List.foldl_append, ← meetAll]
  rfl

theorem of_meetAll (ks : List TaskId) : Of ks (meetAll {} ks) := by
  induction ks using List.reverseRecOn with
  | nil => exact .nil
  | append_singleton ks k ih =>
    rw [meetAll_concat]
    exact ih.concat k

/-- A collision is counted when it is told. -/
theorem collisions_meet (s : Sightings) (k : TaskId) :
    (s.meet k).2.collisions = s.collisions + (s.meet k).1.toList.length := by
  unfold meet
  split
  · rfl
  · split <;> rfl

end Sightings

end KernelDispatch
