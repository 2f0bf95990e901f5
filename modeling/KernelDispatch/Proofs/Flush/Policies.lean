/-
  KernelDispatch.Proofs.Flush.Policies

  Flushes that are abandoned on a failed compilation and flushes that run others agree.

  Both do the same until the wait for the compile jobs is over. If nothing has failed to
  compile, both go on alike: they run the same artifacts and return the same result. If
  something has, the one that is abandoned runs nothing and fails with the first
  compile failure. In the end both apply the retention to the same artifacts, so they
  keep the same of them unless a tie decides (`policies_agree`).
-/
import KernelDispatch.Proofs.Flush.Phased

namespace KernelDispatch

variable {C : Type} {cfg cfg' : Settings} {env env' : Environment C}

/-- The artifacts after a flush depend on the artifacts that its compile jobs publish, not on their
order. -/
theorem artifactsAfter_perm {before : ArtifactStore (Artifact C)} {n : Nat} {keys : List TaskId}
    {pub pub' : List (TaskId × Artifact C)} (h : pub.Perm pub') :
    (artifactsAfter before n keys pub).Perm (artifactsAfter before n keys pub') :=
  (h.map _).append_left _

namespace State

variable {s₀ t t' : State C} {ms ms' : List (Move C)} {es es' : List (Stamped C)}

namespace PhasedCall

/-- Two calls without a failed compilation that have the same artifacts come to the same. -/
theorem Finish.agree {supply : TaskId → Option (Artifact C)} {es es' : List (Event C)}
    (h : Finish cfg env s₀ supply es) (h' : Finish cfg' env' s₀ supply es')
    (h_none : compileFailures (s₀.flushes + 1) es = [])
    (h_none' : compileFailures (s₀.flushes + 1) es' = []) :
    launches (s₀.flushes + 1) es = launches (s₀.flushes + 1) es' ∧ answers es = answers es' := by
  cases h with
  | abandoned _ h_failures => simp [h_none] at h_failures
  | ran _ h_fated h_supplied h_answers =>
    cases h' with
    | abandoned _ h_failures => simp [h_none'] at h_failures
    | ran _ h_fated' _ h_answers' =>
      refine ⟨h_fated.ran.trans h_fated'.ran.symm, ?_⟩
      rw [h_answers, h_answers', h_none, h_none', failures_outcomes, failures_outcomes,
        verdicts_eq_of_met h_fated.met h_fated'.met (run_of_mem_fates (h_supplied h_none) _)]

/-- A call that is to be abandoned on a failed compilation is abandoned on one. -/
theorem Finish.of_failed {supply : TaskId → Option (Artifact C)} {es : List (Event C)}
    (h : Finish cfg env s₀ supply es) (h_onFailure : cfg.onFailure = .abandonFlush)
    {first : Failure} {rest : List Failure}
    (h_failed : compileFailures (s₀.flushes + 1) es = first :: rest) :
    launches (s₀.flushes + 1) es = [] ∧ answers es =
      [.returned (.error (.unfinished s₀.backlog.length s₀.backlog.length first))] := by
  cases h with
  | abandoned _ h_failures h_launches h_answers =>
    obtain ⟨rfl, -⟩ := List.cons.inj (h_failures.symm.trans h_failed)
    exact ⟨h_launches, h_answers⟩
  | ran h_goesOn => simp [h_goesOn h_onFailure] at h_failed

end PhasedCall

/-- Two flushes in two phases begin in one state, and their compile jobs publish the same artifacts.
The one is abandoned if a compilation fails or is too late, the other runs others then. If in
neither of them one does, both run the same artifacts for the same records, with the same results,
and return the same. If in the one that is abandoned one does, it runs nothing, and it returns a
failure that counts all records and names the first compile failure. In either case both leave
nothing enqueued, and unless the limit of the retention falls between artifacts with the same last
use, they keep artifacts for the same tasks, and these stand alike for all later flushes. -/
theorem policies_agree
    (h : PhasedCall { cfg with onFailure := .abandonFlush } env s₀ ms t es)
    (h' : PhasedCall { cfg with onFailure := .runOthers } env' s₀ ms' t' es')
    (h_idle : t.current = none) (h_idle' : t'.current = none)
    (h_published : (published (s₀.flushes + 1) (history es)).Perm
      (published (s₀.flushes + 1) (history es'))) :
    (compileFailures (s₀.flushes + 1) (history es) = [] →
      compileFailures (s₀.flushes + 1) (history es') = [] →
      launches (s₀.flushes + 1) (history es) = launches (s₀.flushes + 1) (history es') ∧
        answers (history es) = answers (history es')) ∧
    (∀ first rest, compileFailures (s₀.flushes + 1) (history es) = first :: rest →
      launches (s₀.flushes + 1) (history es) = [] ∧ answers (history es) =
        [.returned (.error (.unfinished s₀.backlog.length s₀.backlog.length first))]) ∧
    t.backlog = [] ∧ t'.backlog = [] ∧
    (Untied cfg.retention.limit ((artifactsAfter s₀.store (s₀.flushes + 1)
        (s₀.backlog.map Record.key) (published (s₀.flushes + 1) (history es))).map Entry.usedBy) →
      ∀ key, t.store.contains key = t'.store.contains key ∧
        ∀ n keys, t.store.standing n keys key = t'.store.standing n keys key) := by
  by_cases h_empty : s₀.backlog = []
  · obtain ⟨h_backlog, h_store, h_answers, h_quiet⟩ := h.returned_of_empty h_empty
    obtain ⟨h_backlog', h_store', h_answers', h_quiet'⟩ := h'.returned_of_empty h_empty
    have h_launches := launches_of_noEntry (s₀.flushes + 1) fun e h_e => (h_quiet e h_e).1
    have h_launches' := launches_of_noEntry (s₀.flushes + 1) fun e h_e => (h_quiet' e h_e).1
    refine ⟨fun _ _ => ⟨h_launches.trans h_launches'.symm, h_answers.trans h_answers'.symm⟩,
      fun first rest h_failed => ?_, h_backlog, h_backlog', fun _ key => ?_⟩
    · rw [compileFailures_of_noPoll _ fun e h_e => (h_quiet e h_e).2] at h_failed
      cases h_failed
    · rw [h_store, h_store']
      exact ⟨rfl, fun _ _ => rfl⟩
  · obtain ⟨store, rank, h_stock, h_store, h_backlog, h_finish⟩ := h.finishes h_empty h_idle
    obtain ⟨store', rank', h_stock', h_store', h_backlog', h_finish'⟩ :=
      h'.finishes h_empty h_idle'
    have h_artifacts : store.artifacts.Perm store'.artifacts :=
      (h_stock.artifacts.trans (artifactsAfter_perm h_published)).trans h_stock'.artifacts.symm
    rw [← ArtifactStore.artifact?_of_perm h_artifacts] at h_finish'
    refine ⟨h_finish.agree h_finish', fun first rest => h_finish.of_failed rfl, h_backlog,
      h_backlog', fun h_untied key => ?_⟩
    have h_find : t.store.find? key = t'.store.find? key := by
      rw [h_store, h_store']
      exact ArtifactStore.find?_retain_eq h_artifacts
        (h_untied.of_perm (h_stock.artifacts.symm.map _)) rank rank' key
    constructor
    · rw [ArtifactStore.contains, ArtifactStore.contains, ArtifactStore.slot?, ArtifactStore.slot?,
        h_find]
    · intro n keys
      rw [ArtifactStore.standing, ArtifactStore.standing, h_find]

/-- Settings under which three artifacts stay for the next flush. -/
def keepsThree : Settings :=
  { hurried with retention := .acrossFlushes 3 }

/-- The call in two phases, abandoned after its wait. -/
def abandonedCall : List (Move Nat) :=
  [List.replicate 6 .caller, compiling [], List.replicate 5 .caller,
    List.replicate 3 (.worker 0)].flatten

/-- What is published in both: the one task that fails and the one that hangs are missing. -/
def twoPublished : List (TaskId × Artifact Nat) :=
  [(.ofText "a", ⟨⟨"k", "a", 1⟩, fun _ n => .completed (n + 1)⟩),
    (.ofText "p", ⟨⟨"k", "p", 1⟩, fun _ _ => .panicked (.saying "boom")⟩)]

set_option maxRecDepth 4000 in
/-- Of the five records one does not compile and one is too late. So the one flush runs nothing,
while the other runs three of them, and both keep three artifacts. -/
theorem five_records_under_both_policies :
    ∃ t es t' es',
      PhasedCall { keepsThree with onFailure := .abandonFlush } mixed
        fiveRecords abandonedCall t es ∧
      PhasedCall { keepsThree with onFailure := .runOthers } mixed
        fiveRecords phasedCall t' es' ∧
      t.current = none ∧ t'.current = none ∧
      published 2 (history es) = published 2 (history es') ∧
      (launches 2 (history es')).map Prod.fst = [0, 2, 3] ∧
      launches 2 (history es) = [] ∧
      answers (history es) = [.returned (.error (.unfinished 5 5 noB))] ∧
      t.backlog = [] ∧ t'.backlog = [] ∧ t.store.size = 3 ∧
      ∀ key, t.store.contains key = t'.store.contains key ∧
        ∀ n keys, t.store.standing n keys key = t'.store.standing n keys key := by
  have h_summary : (run { keepsThree with onFailure := .abandonFlush }
      mixed fiveRecords (.flush :: abandonedCall)).map (fun r => (r.1.current.isNone, r.1.now,
        published 2 (history r.2), compileFailures 2 (history r.2), r.1.store.size)) =
      some (true, 10, twoPublished, [noB, .compileOverdue 1 (.ofNanos 10)], 3) := rfl
  have h_summary' : (run { keepsThree with onFailure := .runOthers }
      mixed fiveRecords (.flush :: phasedCall)).map (fun r => (r.1.current.isNone, r.1.now,
        published 2 (history r.2), (launches 2 (history r.2)).map Prod.fst)) =
      some (true, 10, twoPublished, [0, 2, 3]) := rfl
  obtain ⟨⟨t, es⟩, h_run, h_eq⟩ := Option.map_eq_some_iff.1 h_summary
  obtain ⟨⟨t', es'⟩, h_run', h_eq'⟩ := Option.map_eq_some_iff.1 h_summary'
  simp only [Prod.mk.injEq, Option.isNone_iff_eq_none] at h_eq h_eq'
  obtain ⟨h_idle, h_now, h_published, h_failed, h_size⟩ := h_eq
  obtain ⟨h_idle', h_now', h_published', h_launches⟩ := h_eq'
  have h_same : published 2 (history es) = published 2 (history es') :=
    h_published.trans h_published'.symm
  have h : PhasedCall { keepsThree with onFailure := .abandonFlush }
      mixed fiveRecords abandonedCall t es := by
    refine ⟨⟨⟨rfl, rfl, rfl⟩, fiveRecords_ready, by decide, h_run⟩, rfl, ?_, ?_⟩
    · rw [h_now]
      decide
    · rw [h_now]
      decide
  have h' : PhasedCall { keepsThree with onFailure := .runOthers }
      mixed fiveRecords phasedCall t' es' := by
    refine ⟨⟨⟨rfl, rfl, rfl⟩, fiveRecords_ready, by decide, h_run'⟩, rfl, ?_, ?_⟩
    · rw [h_now']
      decide
    · rw [h_now']
      decide
  have h_untied : Untied 3 ((artifactsAfter fiveRecords.store 2
      (fiveRecords.backlog.map Record.key) (published 2 (history es))).map Entry.usedBy) := by
    rw [h_published]
    decide +kernel
  obtain ⟨-, h_abandoned, h_backlog, h_backlog', h_kept⟩ :=
    policies_agree h h' h_idle h_idle' (.of_eq h_same)
  obtain ⟨h_none, h_answers⟩ := h_abandoned _ _ h_failed
  exact ⟨t, es, t', es', h, h', h_idle, h_idle', h_same, h_launches, h_none, h_answers, h_backlog,
    h_backlog', h_size, h_kept h_untied⟩

end State

end KernelDispatch
