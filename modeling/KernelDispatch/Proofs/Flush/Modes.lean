/-
  KernelDispatch.Proofs.Flush.Modes

  Flushes that are pipelined and flushes in two phases agree.

  What a call of `flush` comes to follows from the state before it and from what its
  compile jobs come to before their deadline: the artifacts that run, the records that
  fail, and the result up to the times in it (`LoneCall.concluded`). The order in
  which the flush submits its launch jobs and waits for its compile jobs does not enter,
  and of the order in which the compile jobs end only that of their reports. So with the
  same endings of compile jobs both modes do the same (`modes_agree`).
-/
import KernelDispatch.Proofs.Flush.Fates
import KernelDispatch.Proofs.Flush.Leaving

namespace KernelDispatch

variable {C : Type} {cfg : Settings} {env : Environment C}

/-! ## Results -/

/-- The places of the records that have failed. -/
def failedPlaces (vs : List (Nat × Option Outcome)) : List Nat :=
  vs.filterMap fun v =>
    match v.2 with
    | some (.error _) => some v.1
    | _ => none

theorem length_failedPlaces (vs : List (Nat × Option Outcome)) :
    (failedPlaces vs).length = (failures (outcomes vs)).length := by
  induction vs with
  | nil => rfl
  | cons v vs ih =>
    obtain ⟨seq, _ | _ | _⟩ := v <;> simp_all [failedPlaces, failures, outcomes, Join.failure?]

/-- Two launch jobs that meet one fate have both come to a good outcome, or to a bad one, or they
are both lost. -/
theorem Fate.Meets.same_kind {mute : Bool} {fate : Fate C} {v v' : Option Outcome}
    (h : fate.Meets mute v) (h' : fate.Meets mute v') :
    v.map Event.isOk = v'.map Event.isOk := by
  cases h_run : fate.run with
  | none =>
    simp only [Fate.Meets, h_run] at h h'
    cases mute with
    | true => rw [h, h']
    | false =>
      obtain ⟨_, rfl⟩ := h
      obtain ⟨_, rfl⟩ := h'
      rfl
  | some run =>
    simp only [Fate.Meets, h_run] at h h'
    rw [h, h']

/-- An artifact that runs decides the outcome of its launch job. -/
theorem Fate.Meets.unique {mute mute' : Bool} {fate : Fate C} {v v' : Option Outcome}
    (h : fate.Meets mute v) (h' : fate.Meets mute' v') (h_run : fate.run ≠ none) : v = v' := by
  obtain ⟨run, h_run⟩ := Option.ne_none_iff_exists'.1 h_run
  simp only [Fate.Meets, h_run] at h h'
  rw [h, h']

theorem kinds_eq_of_met {mute : Nat → Bool} {xs : List (Fate C)} {vs vs' : List (Option Outcome)}
    (h : AllMeet mute xs vs) (h' : AllMeet mute xs vs') :
    vs.map (Option.map Event.isOk) = vs'.map (Option.map Event.isOk) := by
  unfold AllMeet at h h'
  generalize xs.zipIdx = placed at h h'
  induction h generalizing vs' with
  | nil =>
    cases h'
    rfl
  | cons h_x _ ih =>
    cases h' with
    | cons h_x' h_rest' => rw [List.map_cons, List.map_cons, h_x.same_kind h_x', ih h_rest']

theorem verdicts_eq_of_met {mute mute' : Nat → Bool} {xs : List (Fate C)}
    {vs vs' : List (Option Outcome)} (h : AllMeet mute xs vs) (h' : AllMeet mute' xs vs')
    (h_run : ∀ x ∈ xs, x.run ≠ none) : vs = vs' := by
  have h_runs : ∀ x ∈ xs.zipIdx, x.1.run ≠ none := fun x h_x =>
    h_run x.1 (List.fst_mem_of_mem_zipIdx h_x)
  unfold AllMeet at h h'
  generalize xs.zipIdx = placed at h h' h_runs
  induction h generalizing vs' with
  | nil =>
    cases h'
    rfl
  | cons h_x _ ih =>
    cases h' with
    | cons h_x' h_rest' =>
      rw [h_x.unique h_x' (h_runs _ (List.mem_cons_self ..)),
        ih h_rest' fun x h_x => h_runs x (List.mem_cons_of_mem _ h_x)]

/-- The failed places are those with a bad outcome. -/
theorem failedPlaces_eq_zip (vs : List (Nat × Option Outcome)) :
    failedPlaces vs =
      ((vs.map Prod.fst).zip ((vs.map Prod.snd).map (Option.map Event.isOk))).filterMap
        fun p => if p.2 = some false then some p.1 else none := by
  induction vs with
  | nil => rfl
  | cons v vs ih =>
    obtain ⟨seq, _ | _ | _⟩ := v <;> simp_all [failedPlaces, Event.isOk]

theorem failures_outcomes (vs : List (Nat × Option Outcome)) :
    failures (outcomes vs) = (vs.map Prod.snd).filterMap (·.bind Join.failure?) := by
  rw [failures, outcomes, List.filterMap_filterMap, List.filterMap_map]
  refine List.filterMap_congr fun v _ => ?_
  cases h : v.2 <;> simp [h]

theorem run_of_mem_fates {supply : TaskId → Option (Artifact C)} {rs : List (Record C)}
    (h : ∀ r ∈ rs, ∃ artifact, supply r.key = some artifact) (runs : Nat) :
    ∀ x ∈ fates supply runs rs, x.run ≠ none := by
  induction rs generalizing runs with
  | nil => simp [fates]
  | cons r rest ih =>
    obtain ⟨artifact, h_artifact⟩ := h r (List.mem_cons_self ..)
    rintro x (_ | ⟨_, h_x⟩)
    · simp [fateOf, h_artifact]
    · exact ih (fun r h_r => h r (List.mem_cons_of_mem _ h_r)) _ x h_x

/-- Two results of flushes with one report agree up to the times in them, if the failures of their
waits do, as many of their launch jobs have failed, and these have done so alike unless there is a
failure of the wait to name first. -/
theorem resultOf_untimed (report : Report) {joined joined' launched launched' : List Failure}
    (h_joined : joined.map Failure.untimed = joined'.map Failure.untimed)
    (h_length : launched.length = launched'.length)
    (h_launched : joined = [] → launched = launched') :
    (resultOf report joined launched).mapError Failure.untimed =
      (resultOf report joined' launched').mapError Failure.untimed := by
  cases joined with
  | nil =>
    obtain rfl := List.map_eq_nil_iff.1 h_joined.symm
    rw [h_launched rfl]
  | cons first rest =>
    obtain ⟨first', rest', rfl, h_first, -⟩ := List.map_eq_cons_iff.1 h_joined.symm
    simp [resultOf, Except.mapError, Failure.untimed, h_first, h_length]

/-- Whether a flush gives up at its deadline. -/
def Event.isExpiry (n : Nat) : Event C → Bool
  | polled flush (.expired _) _ => flush == n
  | _ => false

theorem Event.eq_of_isExpiry {n : Nat} {e : Event C} (h : e.isExpiry n = true) :
    ∃ waited join, e = .polled n (.expired waited) join := by
  cases e with
  | polled flush found join =>
    cases found with
    | expired waited =>
      obtain rfl := beq_iff_eq.1 h
      exact ⟨waited, join, rfl⟩
    | received | orphaned => cases h
  | _ => cases h

namespace State

variable {s₀ t t' u : State C} {f f' : Flush C} {due due' : Moment} {m : Move C}
  {ms ms' : List (Move C)} {es es' : List (Stamped C)} {fs : List (Event C)}

namespace LoneCall

/-- What a call of `flush` has come to, if this is what its compile jobs have come to in time. -/
structure Concluded (env : Environment C) (s₀ : State C) (ends : List (Ending C))
    (es : List (Event C)) : Prop where
  fated : Fated (env.mute (s₀.flushes + 1)) (s₀.flushes + 1)
    (fates (supply s₀.store.slot? ends) s₀.runs s₀.backlog) es
  places : (verdicts (s₀.flushes + 1) es).map Prod.fst = List.range s₀.backlog.length
  alone : ∀ j key artifact, .settled j key (.ready artifact) ∈ ends →
    supply s₀.store.slot? ends key = some artifact
  answered : ∃ joined,
    joined.map Failure.untimed =
      (joinFailures (outlook s₀).compiled ends).map Failure.untimed ∧
    (joined = [] → ∀ r ∈ s₀.backlog, ∃ artifact,
      supply s₀.store.slot? ends r.key = some artifact) ∧
    answers es = [.returned (resultOf (outlook s₀) joined
      (failures (outcomes (verdicts (s₀.flushes + 1) es))))]

theorem Concluded.quiet {ends : List (Ending C)} {es fs : List (Event C)}
    (h : Concluded env s₀ ends es) (h_quiet : ∀ e ∈ fs, e.isEntry = false ∧ e.isAnswer = false) :
    Concluded env s₀ ends (es ++ fs) := by
  have h_verdicts : verdicts (s₀.flushes + 1) (es ++ fs) = verdicts (s₀.flushes + 1) es := by
    rw [verdicts_append, verdicts_of_noEntry _ fun e h_e => (h_quiet e h_e).1, List.append_nil]
  have h_answers : answers (es ++ fs) = answers es := by
    rw [answers_append, answers_of_quiet fun e h_e => (h_quiet e h_e).2, List.append_nil]
  constructor
  · exact h.fated.quiet fun e h_e => (h_quiet e h_e).1
  · rw [h_verdicts]
    exact h.places
  · exact h.alone
  · rw [h_verdicts, h_answers]
    exact h.answered

/-- The move that ends the flush. -/
theorem concluded_of_last (h : LoneCall cfg env s₀ due ms t es) (h_f : t.current = some f)
    (h_idle : u.current = none) (h_step : Transition cfg env t m u fs) :
    Concluded env s₀ (endings (s₀.flushes + 1) due (es ++ stamp t.now fs)) (history es ++ fs) := by
  obtain ⟨h_number, h_batch⟩ := h.number h_f
  cases h.fresh.conclusion h_f (h_step.caller_of_leaves h_f h_idle) h_idle with
  | unwound h_deadline => exact absurd h_deadline h.joinClock
  | abandoned h_onFailure => simp [h.runOthers] at h_onFailure
  | ends h_past h_stage h_all h_quiet h_answers =>
    have h_over := (h.consistent.joined f h_f).isOver h_past
    -- All records are done, and the last move does nothing to them or to the compile jobs.
    have h_verdicts : verdicts (s₀.flushes + 1) (history es ++ fs) =
        verdicts (s₀.flushes + 1) (history es) := by
      rw [verdicts_append, verdicts_of_noEntry _ h_quiet, List.append_nil]
    have h_endings := h.endings_of_over h_step fun f₁ h_f₁ => by
      obtain rfl := Option.some.inj (h_f₁.symm.trans h_f)
      exact ⟨h_stage, h_over⟩
    rw [h_endings]
    refine ⟨?_, ?_, ?_, f.join.failures, ?_, ?_, h_answers⟩
    · have h_fated := (h.done_as_fated h_f).fated
      rw [doneFates, h_all, List.take_length] at h_fated
      exact h_fated.quiet h_quiet
    · rw [h_verdicts, ← h_number, h.consistent.recorded.places f h_f, h_all]
    · exact fun j key artifact h_ending =>
        (h.supply_eq_some_iff h_f).2 (h.ready_of_ending h_f h_ending)
    · rw [h.failures_eq h_f h_stage h_over, h.fresh.expected_eq h_f h_stage,
        h.fresh.report_eq h_f h_stage]
    · intro h_none r h_r
      have h_key : r.key ∈ f.keys := by
        rw [(h.consistent.layout.inFlush f h_f).keys_eq h_stage, h_batch]
        exact List.mem_map_of_mem h_r
      obtain ⟨artifact, h_slot⟩ :=
        h.fresh.ready_of_no_failures h.calm h_f h_stage h_over h_none h_key
      exact ⟨artifact, (h.supply_eq_some_iff h_f).2 h_slot⟩

/-- A call that has come to its end has come to what the endings of its compile jobs tell. -/
theorem concluded (h : LoneCall cfg env s₀ due ms t es) (h_some : s₀.backlog ≠ [])
    (h_idle : t.current = none) :
    Concluded env s₀ (endings (s₀.flushes + 1) due es) (history es) := by
  refine h.induction (P := fun t es => t.current = none →
    Concluded env s₀ (endings (s₀.flushes + 1) due es) (history es)) ?_ ?_ h_idle
  · intro u fs h_flush h_idle
    cases h_flush with
    | returns _ h_empty => exact absurd h_empty h_some
    | begins => cases h_idle
  · intro ms m t es u fs h_call h_after _ h_before h_step h_idle
    rw [history_append, history_stamp]
    cases h_current : t.current with
    | some f => exact h_call.concluded_of_last h_current h_idle h_step
    | none =>
      have h_noCall : m.isCall = false :=
        h_after.noCall m (List.mem_append_right _ (List.mem_singleton_self _))
      rw [h_call.endings_of_over h_step (by simp [h_current])]
      exact (h_before h_current).quiet
        (h_step.silent_of_idle h_call.consistent.layout h_current h_noCall)

/-- Jobs that come to the same provide the same artifacts, in whatever order they do it. -/
theorem Concluded.supply_le {ends ends' : List (Ending C)} {es : List (Event C)}
    (h : Concluded env s₀ ends' es) (h_ends : ends ⊆ ends') {key : TaskId} {artifact : Artifact C}
    (h_supply : supply s₀.store.slot? ends key = some artifact) :
    supply s₀.store.slot? ends' key = some artifact := by
  unfold supply at h_supply
  split at h_supply
  · next kept h_before =>
    rw [supply, h_before]
    exact h_supply
  · obtain ⟨x, h_x, h_artifact⟩ := List.exists_of_findSome?_eq_some h_supply
    obtain ⟨j, rfl⟩ := Ending.artifact?_eq_some_iff.1 h_artifact
    exact h.alone j key artifact (h_ends h_x)

/-- Two calls whose compile jobs have come to the same in time, and have reported in the same order,
have come to the same. -/
theorem Concluded.agree {ends ends' : List (Ending C)} {es es' : List (Event C)}
    (h : Concluded env s₀ ends es) (h' : Concluded env s₀ ends' es') (h_ends : ends.Perm ends')
    (h_reports : ends.filterMap Ending.outcome? = ends'.filterMap Ending.outcome?) :
    launches (s₀.flushes + 1) es = launches (s₀.flushes + 1) es' ∧
    failedPlaces (verdicts (s₀.flushes + 1) es) = failedPlaces (verdicts (s₀.flushes + 1) es') ∧
    ∃ result result', answers es = [.returned result] ∧ answers es' = [.returned result'] ∧
      result.mapError Failure.untimed = result'.mapError Failure.untimed := by
  have h_supply : supply s₀.store.slot? ends' = supply s₀.store.slot? ends :=
    funext fun key => Option.ext fun artifact =>
      ⟨h.supply_le h_ends.symm.subset, h'.supply_le h_ends.subset⟩
  have h_fated' := h'.fated
  rw [h_supply] at h_fated'
  have h_failed : failedPlaces (verdicts (s₀.flushes + 1) es) =
      failedPlaces (verdicts (s₀.flushes + 1) es') := by
    rw [failedPlaces_eq_zip, failedPlaces_eq_zip, h.places, h'.places,
      kinds_eq_of_met h.fated.met h_fated'.met]
  obtain ⟨joined, h_joined, h_supplied, h_answers⟩ := h.answered
  obtain ⟨joined', h_joined', -, h_answers'⟩ := h'.answered
  rw [← joinFailures_congr h_ends h_reports] at h_joined'
  refine ⟨h.fated.ran.trans h_fated'.ran.symm, h_failed, _, _, h_answers, h_answers', ?_⟩
  refine resultOf_untimed _ (h_joined.trans h_joined'.symm) ?_ fun h_none => ?_
  · rw [← length_failedPlaces, ← length_failedPlaces, h_failed]
  · rw [failures_outcomes, failures_outcomes,
      verdicts_eq_of_met h.fated.met h_fated'.met (run_of_mem_fates (h_supplied h_none) _)]

end LoneCall

/-! ## Both modes -/

/-- A pipelined flush and one in two phases that begin in one state, and whose compile jobs come to
the same before the deadlines of their waits and report in the same order, run the same artifacts
for the same records in the same order, fail the same records, and return the same result up to the
times in it. If each compile job settles and reports at the same moment in both, the order is a
condition only on jobs that report at one moment. -/
theorem modes_agree
    (h : LoneCall { cfg with pipelined := true } env s₀ due ms t es)
    (h' : LoneCall { cfg with pipelined := false } env s₀ due' ms' t' es')
    (h_idle : t.current = none) (h_idle' : t'.current = none)
    (h_endings : (endings (s₀.flushes + 1) due es).Perm (endings (s₀.flushes + 1) due' es'))
    (h_reports : (endings (s₀.flushes + 1) due es).filterMap Ending.outcome? =
      (endings (s₀.flushes + 1) due' es').filterMap Ending.outcome?) :
    launches (s₀.flushes + 1) (history es) = launches (s₀.flushes + 1) (history es') ∧
    failedPlaces (verdicts (s₀.flushes + 1) (history es)) =
      failedPlaces (verdicts (s₀.flushes + 1) (history es')) ∧
    ∃ result result', answers (history es) = [.returned result] ∧
      answers (history es') = [.returned result'] ∧
      result.mapError Failure.untimed = result'.mapError Failure.untimed := by
  by_cases h_empty : s₀.backlog = []
  · obtain ⟨-, -, h_answers, h_quiet⟩ := h.fresh.returned_of_empty h_empty
    obtain ⟨-, -, h_answers', h_quiet'⟩ := h'.fresh.returned_of_empty h_empty
    have h_noEntry : ∀ e ∈ history es, e.isEntry = false := fun e h_e => (h_quiet e h_e).1
    have h_noEntry' : ∀ e ∈ history es', e.isEntry = false := fun e h_e => (h_quiet' e h_e).1
    rw [launches_of_noEntry _ h_noEntry, launches_of_noEntry _ h_noEntry',
      verdicts_of_noEntry _ h_noEntry, verdicts_of_noEntry _ h_noEntry']
    exact ⟨rfl, rfl, _, _, h_answers, h_answers', rfl⟩
  · exact (h.concluded h_empty h_idle).agree (h'.concluded h_empty h_idle') h_endings h_reports

/-! ## A flush in both modes -/

/-- Whether the flush has this deadline wherever the call has got to a wait. -/
def waitsUntil (cfg : Settings) (env : Environment C) (s₀ : State C) (due : Moment)
    (ms : List (Move C)) : Bool :=
  (List.range (ms.length + 1)).all fun k =>
    (run cfg env s₀ (.flush :: ms.take k)).all fun r => r.1.current.all fun f =>
      match f.stage with
      | .requesting _ => true
      | _ => f.joinDeadline == due

/-- Whether all that the jobs come to before the flush gives up at its deadline is in time. -/
def inTime (n : Nat) (due : Moment) (es : List (Stamped C)) : Bool :=
  (es.takeWhile fun e => !e.2.isExpiry n).all fun e =>
    (e.2.ending? n).isNone || decide (e.1 < due)

/-- A call that has been checked keeps to its deadline. -/
theorem LoneCall.of_checks (h_rested : Rested s₀) (h_ready : AllReady s₀)
    (h_noCall : ∀ m ∈ ms, m.isCall = false) (h_runOthers : cfg.onFailure = .runOthers)
    (h_run : run cfg env s₀ (.flush :: ms) = some (t, es))
    (h_joinClock : cfg.compilePatience.deadline? t.now ≠ none)
    (h_launchClock : cfg.dispatchPatience.deadline? t.now ≠ none)
    (h_waits : waitsUntil cfg env s₀ due ms = true)
    (h_inTime : inTime (s₀.flushes + 1) due es = true) : LoneCall cfg env s₀ due ms t es where
  rested := h_rested
  ready := h_ready
  noCall := h_noCall
  reached := h_run
  runOthers := h_runOthers
  joinClock := h_joinClock
  launchClock := h_launchClock
  deadline ms₁ ms₂ s es₁ f h_ms h_s h_f h_stage := by
    have h_prefix : ms₁.length ∈ List.range (ms.length + 1) := by
      rw [List.mem_range, h_ms, List.length_append]
      omega
    have h_check := List.all_eq_true.1 h_waits _ h_prefix
    rw [h_ms, List.take_left, h_s] at h_check
    simp only [Option.all_some, h_f] at h_check
    split at h_check
    · next rest h_requesting => exact absurd ⟨rest, h_requesting⟩ h_stage
    · exact beq_iff_eq.1 h_check
  timely past e later h_es h_ending := by
    by_cases h_late : Late (s₀.flushes + 1) (history past)
    · exact .inr h_late
    · have h_waiting : ∀ x ∈ past, (!x.2.isExpiry (s₀.flushes + 1)) = true := by
        intro x h_x
        rw [Bool.not_eq_true', Bool.eq_false_iff]
        intro h_expiry
        obtain ⟨waited, join, h_polled⟩ := Event.eq_of_isExpiry h_expiry
        exact h_late ⟨waited, join, h_polled ▸ List.mem_map_of_mem h_x⟩
      have h_e : (!e.2.isExpiry (s₀.flushes + 1)) = true := by
        rw [Bool.not_eq_true', Bool.eq_false_iff]
        intro h_expiry
        obtain ⟨waited, join, h_polled⟩ := Event.eq_of_isExpiry h_expiry
        exact h_ending (h_polled ▸ rfl)
      rw [inTime, h_es, List.takeWhile_append_of_pos h_waiting, List.takeWhile_cons,
        if_pos h_e] at h_inTime
      have h_check := List.all_eq_true.1 h_inTime e
        (List.mem_append_right _ (List.mem_cons_self ..))
      rw [Bool.or_eq_true, Option.isNone_iff_eq_none, decide_eq_true_iff] at h_check
      exact .inl (h_check.resolve_left h_ending)

/-- A task compiles, one fails to compile, and one compiles to an artifact that panics. -/
def mixed : Environment Nat where
  codegen _ call :=
    if call.task = "b" then .failed (.other "unsupported")
    else if call.task = "p" then .code fun _ _ => .panicked (.saying "boom")
    else .code fun _ n => .completed (n + 1)

/-- Settings with short waits. -/
def hurried : Settings where
  compilePatience := .ofNanos 10
  dispatchPatience := .ofNanos 5

/-- Five records, and the artifact of the third of them from an earlier flush. -/
def fiveRecords : State Nat :=
  { start 1 0 with
    flushes := 1
    backlog := [⟨0, "k", "a"⟩, ⟨1, "k", "b"⟩, ⟨2, "k", "d"⟩, ⟨3, "k", "p"⟩, ⟨4, "k", "c"⟩]
    store := (((∅ : ArtifactStore (Artifact Nat)).request (.ofText "d") 1).2.publish (.ofText "d")
      ⟨⟨"k", "d", 1⟩, fun _ n => .completed (n + 1)⟩).2 }

/-- The first three tasks compile at the moments 2, 4 and 6, and the last one hangs. -/
def compiling (between : List (Move Nat)) : List (Move Nat) :=
  (List.replicate 3 ([.pick (.takeShared 0 0), .worker 0, .tick 2] ++
    List.replicate 3 (.worker 0) ++ between)).flatten ++
    [.pick (.takeShared 0 0), .worker 0, .tick 4]

def pipelinedCall : List (Move Nat) :=
  [List.replicate 12 .caller, compiling (List.replicate 2 .launcher), List.replicate 4 .caller,
    List.replicate 6 .launcher, [.caller, .launcher], List.replicate 3 (.worker 0),
    [.caller]].flatten

def phasedCall : List (Move Nat) :=
  [List.replicate 6 .caller, compiling [], List.replicate 11 .caller, List.replicate 13 .launcher,
    List.replicate 3 (.worker 0), [.caller]].flatten

/-- What the compile jobs come to before the deadline. -/
def threeEndings : List (Ending Nat) :=
  [.settled 0 (.ofText "a") (.ready ⟨⟨"k", "a", 1⟩, fun _ n => .completed (n + 1)⟩),
    .reported 0 (.ok ()), .settled 1 (.ofText "b") (.failed noB.message),
    .reported 1 (.error noB),
    .settled 2 (.ofText "p") (.ready ⟨⟨"k", "p", 1⟩, fun _ _ => .panicked (.saying "boom")⟩),
    .reported 2 (.ok ())]

/-- All that is in the store of `fiveRecords` is an artifact. -/
theorem fiveRecords_ready : AllReady fiveRecords := by
  intro k slot h_slot
  have h_pending : ((∅ : ArtifactStore (Artifact Nat)).request (.ofText "d") 1).2.isPending
      (.ofText "d") = true := rfl
  rw [fiveRecords, ArtifactStore.publish, ArtifactStore.slot?_settle, h_pending,
    ArtifactStore.slot?_request] at h_slot
  by_cases h_k : k = .ofText "d"
  · rw [if_pos ⟨h_k, rfl⟩] at h_slot
    cases h_slot
    rfl
  · simp [h_k] at h_slot

set_option maxRecDepth 4000 in
/-- Of the five records the one whose task does not compile, the one whose artifact panics and the
one whose task hangs fail in both modes. -/
theorem five_records_in_both_modes :
    ∃ t es t' es',
      LoneCall { hurried with pipelined := true } mixed fiveRecords 10 pipelinedCall t es ∧
      LoneCall { hurried with pipelined := false } mixed fiveRecords 10 phasedCall t' es' ∧
      t.current = none ∧ t'.current = none ∧ endings 2 10 es = endings 2 10 es' ∧
      failedPlaces (verdicts 2 (history es)) = [1, 3, 4] ∧
      launches 2 (history es) = launches 2 (history es') ∧
      failedPlaces (verdicts 2 (history es)) = failedPlaces (verdicts 2 (history es')) ∧
      ∃ result result', answers (history es) = [.returned result] ∧
        answers (history es') = [.returned result'] ∧
        result.mapError Failure.untimed = result'.mapError Failure.untimed := by
  have h_summary : (run { hurried with pipelined := true } mixed fiveRecords
      (.flush :: pipelinedCall)).map (fun r => (r.1.current.isNone, r.1.now, inTime 2 10 r.2,
        endings 2 10 r.2, failedPlaces (verdicts 2 (history r.2)))) =
      some (true, 10, true, threeEndings, [1, 3, 4]) := rfl
  have h_summary' : (run { hurried with pipelined := false } mixed fiveRecords
      (.flush :: phasedCall)).map (fun r => (r.1.current.isNone, r.1.now, inTime 2 10 r.2,
        endings 2 10 r.2)) = some (true, 10, true, threeEndings) := rfl
  obtain ⟨⟨t, es⟩, h_run, h_eq⟩ := Option.map_eq_some_iff.1 h_summary
  obtain ⟨⟨t', es'⟩, h_run', h_eq'⟩ := Option.map_eq_some_iff.1 h_summary'
  simp only [Prod.mk.injEq, Option.isNone_iff_eq_none] at h_eq h_eq'
  obtain ⟨h_idle, h_now, h_inTime, h_endings, h_failed⟩ := h_eq
  obtain ⟨h_idle', h_now', h_inTime', h_endings'⟩ := h_eq'
  have h_same : endings 2 10 es = endings 2 10 es' := h_endings.trans h_endings'.symm
  have h : LoneCall { hurried with pipelined := true } mixed fiveRecords 10 pipelinedCall t es := by
    refine .of_checks ⟨rfl, rfl, rfl⟩ fiveRecords_ready (by decide) rfl h_run ?_ ?_
      (by decide +kernel) h_inTime
    · rw [h_now]
      decide
    · rw [h_now]
      decide
  have h' : LoneCall { hurried with pipelined := false } mixed fiveRecords 10 phasedCall t'
      es' := by
    refine .of_checks ⟨rfl, rfl, rfl⟩ fiveRecords_ready (by decide) rfl h_run' ?_ ?_
      (by decide +kernel) h_inTime'
    · rw [h_now']
      decide
    · rw [h_now']
      decide
  exact ⟨t, es, t', es', h, h', h_idle, h_idle', h_same, h_failed,
    modes_agree h h' h_idle h_idle' (.of_eq h_same) (congrArg _ h_same)⟩

end State

end KernelDispatch
