/-
  KernelDispatch.Proofs.ArtifactStore.Retention

  Which artifacts outlive a flush.

  The retention sorts the artifacts by their last use and drops the oldest of them if
  there are too many. An artifact stays exactly if enough others are older, unless the
  limit falls between artifacts with one and the same last use (`mem_retain_iff`). So
  two stores with the same artifacts keep the same of them, whatever the ranks
  (`find?_retain_eq`).
-/
import KernelDispatch.ArtifactStore.Lemmas

namespace KernelDispatch

/-- How many entries are kept at the end of a flush at most. -/
def Retention.limit : Retention → Nat
  | untilFlushEnds => 0
  | acrossFlushes maxEntries => maxEntries

/-- Of artifacts with these last uses a limit keeps all or none of those with the same. -/
def Untied (limit : Nat) (uses : List Nat) : Prop :=
  ∀ use ∈ uses, uses.countP (· ≤ use) ≤ uses.length - limit ∨
    uses.length - limit ≤ uses.countP (· < use)

instance (limit : Nat) (uses : List Nat) : Decidable (Untied limit uses) :=
  inferInstanceAs (Decidable (∀ use ∈ uses, _))

theorem Untied.of_perm {limit : Nat} {uses uses' : List Nat} (h : Untied limit uses)
    (h_perm : uses.Perm uses') : Untied limit uses' := by
  intro use h_use
  rw [← h_perm.countP_eq, ← h_perm.countP_eq, ← h_perm.length_eq]
  exact h use (h_perm.mem_iff.2 h_use)

/-- What is left of a sorted list without its first elements, if these do not end between
equals. -/
theorem mem_drop_iff_of_untied {α : Type} {xs : List α} {rank : α → Nat} {n : Nat} {x : α}
    (h_sorted : xs.Pairwise fun a b => rank a ≤ rank b) (h_x : x ∈ xs)
    (h_untied : xs.countP (rank · ≤ rank x) ≤ n ∨ n ≤ xs.countP (rank · < rank x)) :
    x ∈ xs.drop n ↔ n ≤ xs.countP (rank · < rank x) := by
  have h_split (p : α → Bool) : xs.countP p = (xs.take n).countP p + (xs.drop n).countP p := by
    rw [← List.countP_append, List.take_append_drop]
  rw [← List.take_append_drop n xs, List.pairwise_append] at h_sorted
  obtain ⟨-, -, h_across⟩ := h_sorted
  constructor
  · intro h_drop
    refine h_untied.resolve_left ?_
    have h_front : (xs.take n).countP (rank · ≤ rank x) = (xs.take n).length :=
      List.countP_eq_length.2 fun a h_a => decide_eq_true (h_across a h_a x h_drop)
    have h_back : 0 < (xs.drop n).countP (rank · ≤ rank x) :=
      List.countP_pos_iff.2 ⟨x, h_drop, decide_eq_true (Nat.le_refl _)⟩
    have h_length := List.length_pos_of_mem h_drop
    rw [List.length_drop] at h_length
    rw [h_split, h_front, List.length_take]
    omega
  · intro h_le
    by_contra h_drop
    have h_take : x ∈ xs.take n := by
      rw [← List.take_append_drop n xs, List.mem_append] at h_x
      exact h_x.resolve_right h_drop
    have h_front : (xs.take n).countP (rank · < rank x) ≠ (xs.take n).length := by
      intro h_all
      simpa using List.countP_eq_length.1 h_all x h_take
    have h_back : (xs.drop n).countP (rank · < rank x) = 0 :=
      List.countP_eq_zero.2 fun a h_a => by simpa using h_across x h_take a h_a
    have h_bound := (xs.take n).countP_le_length (p := (rank · < rank x))
    have h_length := xs.length_take_le n
    rw [h_split, h_back] at h_le
    omega

/-- An entry after flush `n` has used these tasks. -/
def Entry.usedIn {A : Type} (keys : List TaskId) (n : Nat) (e : Entry A) : Entry A :=
  if e.key ∈ keys then { e with usedBy := n } else e

@[simp] theorem Entry.usedIn_nil {A : Type} (n : Nat) (e : Entry A) : e.usedIn [] n = e :=
  if_neg List.not_mem_nil

theorem Entry.usedIn_append {A : Type} (keys keys' : List TaskId) (n : Nat) (e : Entry A) :
    e.usedIn (keys ++ keys') n = (e.usedIn keys n).usedIn keys' n := by
  by_cases h : e.key ∈ keys <;> by_cases h' : e.key ∈ keys' <;> simp [usedIn, h, h']

@[simp] theorem Entry.usedIn_slot {A : Type} (keys : List TaskId) (n : Nat) (e : Entry A) :
    (e.usedIn keys n).slot = e.slot := by
  unfold usedIn
  split <;> rfl

namespace ArtifactStore

variable {A : Type} {s s' : ArtifactStore A} {e : Entry A} {k : TaskId} {n : Nat}

/-- The entries with artifacts. -/
def artifacts (s : ArtifactStore A) : List (Entry A) :=
  s.entries.filter (·.slot.isReady)

/-- The artifact of a task. -/
def artifact? (s : ArtifactStore A) (k : TaskId) : Option A :=
  match s.slot? k with
  | some (.ready artifact) => some artifact
  | _ => none

theorem artifact?_eq_some_iff {artifact : A} :
    s.artifact? k = some artifact ↔ s.slot? k = some (.ready artifact) := by
  unfold artifact?
  split
  · next h => simp [h]
  · next h => simpa using h artifact

theorem artifact?_congr (h : s.slot? k = s'.slot? k) : s.artifact? k = s'.artifact? k := by
  rw [artifact?, artifact?, h]

theorem artifact?_eq_some_iff_mem {artifact : A} :
    s.artifact? k = some artifact ↔ ∃ e ∈ s.artifacts, e.key = k ∧ e.slot = .ready artifact := by
  rw [artifact?_eq_some_iff, slot?, Option.map_eq_some_iff]
  constructor
  · rintro ⟨e, h_find, h_slot⟩
    obtain ⟨h_e, h_key⟩ := find?_eq_some_iff.1 h_find
    exact ⟨e, List.mem_filter.2 ⟨h_e, by rw [h_slot]; rfl⟩, h_key, h_slot⟩
  · rintro ⟨e, h_e, h_key, h_slot⟩
    exact ⟨e, find?_eq_some_iff.2 ⟨List.mem_of_mem_filter h_e, h_key⟩, h_slot⟩

theorem artifact?_of_perm (h : s.artifacts.Perm s'.artifacts) : s.artifact? = s'.artifact? :=
  funext fun _ => Option.ext fun _ => by
    simp only [artifact?_eq_some_iff_mem, h.mem_iff]

/-! ## What operations do to artifacts -/

theorem touch_eq (s : ArtifactStore A) (k : TaskId) (n : Nat) :
    (s.touch k n).entries = s.entries.map (Entry.usedIn [k] n) := by
  simp [touch, mapEntries, Entry.usedIn]

/-- A request for a task marks it as used. -/
theorem artifacts_request (s : ArtifactStore A) (k : TaskId) (n : Nat) :
    (s.request k n).2.artifacts = s.artifacts.map (Entry.usedIn [k] n) := by
  unfold request
  split
  · simp [artifacts, touch_eq, List.filter_map, Function.comp_def]
  · next h_new =>
    have h_absent : ∀ e ∈ s.artifacts, e.usedIn [k] n = e := by
      intro e h_e
      have h_key := List.find?_eq_none.1 h_new e (List.mem_of_mem_filter h_e)
      exact if_neg (by simpa using h_key)
    rw [List.map_congr_left h_absent]
    simp [artifacts, add, Slot.isReady]

/-- A pending slot that settles is the only one to change. -/
theorem entries_settle (content : Slot A) (h_e : e ∈ s.entries) (h_pending : e.slot = .pending) :
    ∃ others, s.entries.Perm (e :: others) ∧
      (s.settle e.key content).2.entries.Perm ({ e with slot := content } :: others) := by
  obtain ⟨before, after, h_split⟩ := List.append_of_mem h_e
  refine ⟨before ++ after, h_split ▸ List.perm_middle, ?_⟩
  have h_distinct := s.distinct
  rw [h_split, List.map_append, List.map_cons, List.nodup_append, List.nodup_cons] at h_distinct
  obtain ⟨-, ⟨h_after, -⟩, h_before⟩ := h_distinct
  have h_isPending : s.isPending e.key = true := by
    rw [isPending_iff, slot?, find?_eq_some_iff.2 ⟨h_e, rfl⟩, Option.map_some, h_pending]
  have h_others {es : List (Entry A)} (h_ne : ∀ x ∈ es, x.key ≠ e.key) :
      es.map (fun x => if x.key = e.key then { x with slot := content } else x) = es :=
    (List.map_congr_left fun x h_x => if_neg (h_ne x h_x)).trans (List.map_id _)
  rw [settle, if_pos h_isPending]
  simp only [mapEntries, h_split, List.map_append, List.map_cons, if_true]
  rw [h_others, h_others]
  · exact List.perm_middle
  · intro x h_x h_key
    exact h_after (h_key ▸ List.mem_map_of_mem h_x)
  · exact fun x h_x => h_before x.key (List.mem_map_of_mem h_x) e.key (List.mem_cons_self ..)

/-- What a compile job puts into a pending slot comes to the artifacts if it is one. -/
theorem artifacts_settle (content : Slot A) (h_e : e ∈ s.entries) (h_pending : e.slot = .pending) :
    (s.settle e.key content).2.artifacts.Perm
      (s.artifacts ++ [{ e with slot := content }].filter (·.slot.isReady)) := by
  obtain ⟨others, h_before, h_after⟩ := entries_settle content h_e h_pending
  have h_was : e.slot.isReady = false := by rw [h_pending]; rfl
  have h_artifacts : s.artifacts.Perm (others.filter (·.slot.isReady)) := by
    simpa [artifacts, h_was] using h_before.filter (·.slot.isReady)
  have h_filtered := h_after.filter (·.slot.isReady)
  rw [← List.singleton_append, List.filter_append] at h_filtered
  exact (h_filtered.trans List.perm_append_comm).trans (h_artifacts.symm.append_right _)

/-- Slots that fail hold no artifacts. -/
theorem artifacts_rejectPending (s : ArtifactStore A) (message : String) :
    (s.rejectPending message).2.artifacts = s.artifacts := by
  have h_ready (e : Entry A) : (Entry.rejectIfPending message e).slot.isReady = e.slot.isReady := by
    unfold Entry.rejectIfPending
    cases h : e.slot <;> simp [h, Slot.isPending, Slot.isReady]
  have h_same : ∀ e ∈ s.artifacts, Entry.rejectIfPending message e = e := by
    intro e h_e
    have h_slot := (List.mem_filter.1 h_e).2
    unfold Entry.rejectIfPending
    cases h : e.slot <;> simp_all [Slot.isReady, Slot.isPending]
  rw [artifacts, rejectPending, mapEntries, List.filter_map, Function.comp_def]
  simp only [h_ready]
  exact (List.map_congr_left h_same).trans (List.map_id _)

/-! ## The end of a flush -/

theorem leavesBefore_trans (rank : TaskId → Nat) (a b c : Entry A)
    (h : leavesBefore rank a b = true) (h' : leavesBefore rank b c = true) :
    leavesBefore rank a c = true := by
  simp only [leavesBefore, Bool.or_eq_true, Bool.and_eq_true, decide_eq_true_eq, beq_iff_eq] at *
  omega

theorem leavesBefore_total (rank : TaskId → Nat) (a b : Entry A) :
    (leavesBefore rank a b || leavesBefore rank b a) = true := by
  simp only [leavesBefore, Bool.or_eq_true, Bool.and_eq_true, decide_eq_true_eq, beq_iff_eq]
  omega

theorem usedBy_le_of_leavesBefore {rank : TaskId → Nat} {a b : Entry A}
    (h : leavesBefore rank a b = true) : a.usedBy ≤ b.usedBy := by
  simp only [leavesBefore, Bool.or_eq_true, Bool.and_eq_true, decide_eq_true_eq, beq_iff_eq] at h
  omega

/-- The retention keeps the artifacts that come last in the order in which they leave. -/
theorem entries_retain_perm (s : ArtifactStore A) (retention : Retention) (rank : TaskId → Nat) :
    (s.retain retention rank).2.entries.Perm
      ((s.artifacts.mergeSort (leavesBefore rank)).drop
        (s.artifacts.length - retention.limit)) := by
  cases retention with
  | untilFlushEnds =>
    rw [Retention.limit, Nat.sub_zero, List.drop_eq_nil_of_le (by simp)]
    exact .refl _
  | acrossFlushes maxEntries =>
    simp only [retain, Retention.limit]
    split
    · exact .refl _
    · next h_few =>
      have h_few : s.artifacts.length ≤ maxEntries := Nat.le_of_not_lt h_few
      rw [Nat.sub_eq_zero_of_le h_few, List.drop_zero]
      exact (List.mergeSort_perm s.artifacts (leavesBefore rank)).symm

theorem size_retain_le (s : ArtifactStore A) (retention : Retention) (rank : TaskId → Nat) :
    (s.retain retention rank).2.size ≤ retention.limit := by
  rw [size, (s.entries_retain_perm retention rank).length_eq, List.length_drop,
    List.length_mergeSort]
  omega

/-- Unless its limit falls between two artifacts with the same last use, the retention keeps those
than which enough others are older. -/
theorem mem_retain_iff {retention : Retention} {rank : TaskId → Nat}
    (h_untied : Untied retention.limit (s.artifacts.map Entry.usedBy)) :
    e ∈ (s.retain retention rank).2.entries ↔ e ∈ s.artifacts ∧
      s.artifacts.length - retention.limit ≤ s.artifacts.countP (·.usedBy < e.usedBy) := by
  have h_perm := List.mergeSort_perm s.artifacts (leavesBefore rank)
  have h_sorted := (List.pairwise_mergeSort (leavesBefore_trans rank) (leavesBefore_total rank)
    s.artifacts).imp usedBy_le_of_leavesBefore
  rw [(s.entries_retain_perm retention rank).mem_iff]
  by_cases h_e : e ∈ s.artifacts
  · have h_limit := h_untied e.usedBy (List.mem_map_of_mem h_e)
    rw [List.countP_map, List.countP_map, List.length_map] at h_limit
    rw [and_iff_right h_e, ← h_perm.countP_eq]
    refine mem_drop_iff_of_untied h_sorted (h_perm.mem_iff.2 h_e) ?_
    rw [h_perm.countP_eq, h_perm.countP_eq]
    exact h_limit
  · refine iff_of_false (fun h_drop => h_e ?_) fun h_and => h_e h_and.1
    exact h_perm.mem_iff.1 (List.mem_of_mem_drop h_drop)

/-- Two stores with the same artifacts keep the same, unless the limit of the retention falls
between two with the same last use. -/
theorem find?_retain_eq {retention : Retention} (h : s.artifacts.Perm s'.artifacts)
    (h_untied : Untied retention.limit (s.artifacts.map Entry.usedBy)) (rank rank' : TaskId → Nat)
    (k : TaskId) : (s.retain retention rank).2.find? k = (s'.retain retention rank').2.find? k := by
  refine Option.ext fun e => ?_
  rw [find?_eq_some_iff, find?_eq_some_iff, mem_retain_iff h_untied,
    mem_retain_iff (h_untied.of_perm (h.map _)), h.mem_iff, h.length_eq, h.countP_eq]

end ArtifactStore

end KernelDispatch
