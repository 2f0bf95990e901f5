/-
  KernelDispatch.Proofs.Flush.Completion

  What it means that `flush` returns well.

  The result of a flush is computed from the outcomes of its launch jobs. A launch
  job with a good outcome has run its artifact to the end; a launch job that is
  lost leaves no outcome, and the flush does not notice. So a flush that returns
  well has run every record exactly if none of its launch jobs was lost
  (`all_completed_iff_none_lost`). Launch jobs are lost when the clock cannot
  represent the end of their wait, and then `flush` returns well although nothing
  has run (`returns_well_without_running`).
-/
import KernelDispatch.Proofs.Flush.History

namespace KernelDispatch

variable {C : Type} {cfg : Settings} {env : Environment C}

/-! ## Artifact runs and good outcomes -/

/-- A launch job without an outcome is lost. -/
theorem Event.lost_of_verdict? {e : Event C} {n seq : Nat} (h : e.verdict? n = some (seq, none)) :
    e = .launchJobLost n seq := by
  cases e with
  | launchJobLost flush seq' =>
    simp only [verdict?, Option.ite_none_right_eq_some, Option.some.injEq, Prod.mk.injEq] at h
    obtain ⟨rfl, rfl, -⟩ := h
    rfl
  | _ => simp [verdict?] at h

/-- The places of the runs that returned. -/
def completions (xs : List (Nat × Execution C)) : List Nat :=
  xs.filterMap fun x =>
    match x.2 with
    | .completed _ => some x.1
    | _ => none

/-- The places of the launch jobs with a good outcome. -/
def successes (vs : List (Nat × Option Outcome)) : List Nat :=
  vs.filterMap fun v =>
    match v.2 with
    | some (.ok ()) => some v.1
    | _ => none

@[simp] theorem completions_append (xs ys : List (Nat × Execution C)) :
    completions (xs ++ ys) = completions xs ++ completions ys :=
  List.filterMap_append

@[simp] theorem successes_append (vs ws : List (Nat × Option Outcome)) :
    successes (vs ++ ws) = successes vs ++ successes ws :=
  List.filterMap_append

theorem completions_sublist (xs : List (Nat × Execution C)) :
    (completions xs).Sublist (xs.map Prod.fst) := by
  induction xs with
  | nil => exact .slnil
  | cons x xs ih =>
    obtain ⟨seq, result⟩ := x
    cases result with
    | completed context => exact ih.cons_cons seq
    | panicked cause | lost cause => exact ih.cons seq

theorem successes_sublist (vs : List (Nat × Option Outcome)) :
    (successes vs).Sublist (vs.map Prod.fst) := by
  induction vs with
  | nil => exact .slnil
  | cons v vs ih =>
    obtain ⟨seq, outcome⟩ := v
    match outcome with
    | some (.ok ()) => exact ih.cons_cons seq
    | some (.error _) => exact ih.cons seq
    | none => exact ih.cons seq

/-- If every run returned, the places of the runs that returned are all. -/
theorem completions_of_all_completed {xs : List (Nat × Execution C)}
    (h : ∀ x ∈ xs, ∃ context, x.2 = .completed context) : completions xs = xs.map Prod.fst := by
  induction xs with
  | nil => rfl
  | cons x xs ih =>
    obtain ⟨context, h_x⟩ := h x (List.mem_cons_self ..)
    have h_rest := ih fun y h_y => h y (List.mem_cons_of_mem _ h_y)
    simp only [completions, List.filterMap_cons, h_x, List.map_cons] at h_rest ⊢
    rw [h_rest]

/-- If the places of the runs that returned are all, every run returned. -/
theorem completed_of_completions_eq {xs : List (Nat × Execution C)}
    (h : completions xs = xs.map Prod.fst) : ∀ x ∈ xs, ∃ context, x.2 = .completed context := by
  induction xs with
  | nil => simp
  | cons x xs ih =>
    obtain ⟨seq, result⟩ := x
    have h_short := (completions_sublist xs).length_le
    cases result with
    | completed context =>
      have h_rest : completions xs = xs.map Prod.fst := (List.cons.inj h).2
      rintro y (_ | ⟨_, h_y⟩)
      · exact ⟨context, rfl⟩
      · exact ih h_rest y h_y
    | panicked cause | lost cause =>
      have h_length := congrArg List.length h
      simp only [completions, List.filterMap_cons, List.map_cons, List.length_cons]
        at h_length h_short
      omega

/-- If every launch job has a good outcome, the places of the good ones are all. -/
theorem successes_of_all_good {vs : List (Nat × Option Outcome)}
    (h : ∀ v ∈ vs, v.2 = some (.ok ())) : successes vs = vs.map Prod.fst := by
  induction vs with
  | nil => rfl
  | cons v vs ih =>
    have h_v := h v (List.mem_cons_self ..)
    have h_rest := ih fun w h_w => h w (List.mem_cons_of_mem _ h_w)
    simp only [successes, List.filterMap_cons, h_v, List.map_cons] at h_rest ⊢
    rw [h_rest]

/-- If the good ones are all, every launch job has a good outcome. -/
theorem all_good_of_successes {vs : List (Nat × Option Outcome)}
    (h : (successes vs).length = vs.length) : ∀ v ∈ vs, v.2 = some (.ok ()) := by
  induction vs with
  | nil => simp
  | cons v vs ih =>
    obtain ⟨seq, outcome⟩ := v
    have h_short := (successes_sublist vs).length_le
    rw [List.length_map] at h_short
    match outcome with
    | some (.ok ()) =>
      rintro w (_ | ⟨_, h_w⟩)
      · rfl
      · exact ih (Nat.succ.inj h) w h_w
    | some (.error _) =>
      simp only [successes, List.filterMap_cons, List.length_cons] at h h_short
      omega
    | none =>
      simp only [successes, List.filterMap_cons, List.length_cons] at h h_short
      omega

namespace State

variable {s s' t : State C} {f : Flush C} {es fs : List (Event C)}

/-- A history in which launch jobs have good outcomes exactly for runs that returned, and
artifacts run only for launch jobs that come to an end. -/
structure Paired (es : List (Event C)) : Prop where
  good : ∀ n, completions (invocations n es) = successes (verdicts n es)
  places : ∀ n, ((invocations n es).map Prod.fst).Sublist ((verdicts n es).map Prod.fst)

theorem Paired.append (h : Paired fs) (h' : Paired es) : Paired (fs ++ es) where
  good n := by simp [h.good n, h'.good n]
  places n := by
    simp only [invocations_append, verdicts_append, List.map_append]
    exact (h.places n).append (h'.places n)

theorem Paired.ofQuiet (h : ∀ e ∈ es, e.isLaunch = false) : Paired es where
  good n := by
    rw [invocations_of_quiet n h, verdicts_of_quiet n h]
    rfl
  places n := by
    rw [invocations_of_quiet n h, verdicts_of_quiet n h]
    exact .slnil

theorem LauncherStep.paired {job : LaunchJob C} {rest : List (LaunchJob C)}
    (h : LauncherStep cfg env s job rest s' es) : Paired es := by
  cases h with
  | waits | finds | aborts => exact ⟨fun _ => rfl, fun _ => .slnil⟩
  -- Both readings see the one job of the move, or neither sees it.
  | overflows | misses | mutes | expires | completes | panics | loses =>
    refine ⟨fun n => ?_, fun n => ?_⟩
    all_goals
      by_cases h_own : job.flush = n
      all_goals
        simp [Event.invocation?, Event.verdict?, h_own, completions, successes]

theorem Transition.paired {m : Move C} (h : Transition cfg env s m s' es) : Paired es := by
  cases h with
  | launcher h_lane h_step => exact h_step.paired
  | caller h_current h_step => exact .ofQuiet h_step.quiet
  | worker h_running h_job h_step => exact .ofQuiet h_step.quiet
  | _ => exact .ofQuiet (by simp [Event.isLaunch])

theorem paired_of_run {threads : Nat} {now : Moment} {ms : List (Move C)} {es : List (Stamped C)}
    (h_run : run cfg env (start threads now) ms = some (t, es)) : Paired (history es) :=
  history_induction (P := fun _ _ es => Paired es) ⟨fun _ => rfl, fun _ => .slnil⟩
    (fun _ _ _ _ _ _ _ _ h_paired h_step => h_paired.append h_step.paired) h_run

/-! ## Flushes that return well -/

/-- A flush is over, all its launch jobs have come to an end, and none of them has failed. -/
structure Over (s : State C) (es : List (Event C)) (report : Report) : Prop where
  places : (verdicts report.flush es).map Prod.fst = List.range report.records
  good : ∀ v ∈ verdicts report.flush es, ∀ failure, v.2 ≠ some (.error failure)
  past : report.flush ≤ s.flushes
  gone : ∀ f, s.current = some f → f.number ≠ report.flush

theorem Over.step {m : Move C} {report : Report} (h : Over s fs report) (h_layout : Layout cfg s)
    (h_step : Transition cfg env s m s' es) : Over s' (fs ++ es) report := by
  -- No launch job of a flush that is over is left to come to an end.
  have h_same : verdicts report.flush (fs ++ es) = verdicts report.flush fs := by
    rw [verdicts_append, h_step.verdicts_eq_nil h_layout h.gone, List.append_nil]
  have h_past := h.past
  refine ⟨h_same ▸ h.places, h_same ▸ h.good, Nat.le_trans h_past h_step.flushes_le,
    fun f' h_f' => ?_⟩
  rcases h_step.flush_origin h_f' with ⟨-, f, h_f, h_number, -⟩ | ⟨-, -, rfl, -⟩
  · rw [h_number]
    exact h.gone f h_f
  · change s.flushes + 1 ≠ report.flush
    omega

/-- A flush returns well if no launch job and no compile job has posted a failure. -/
theorem CallerStep.over {report : Report} (h : Recorded s fs) (h_layout : FlushLayout cfg s f)
    (h_current : s.current = some f) (h_step : CallerStep cfg env s f s' es)
    (h_ok : Event.returned (.ok report) ∈ es) : Over s' (fs ++ es) report := by
  have h_quiet (n : Nat) : verdicts n (fs ++ es) = verdicts n fs := by
    rw [verdicts_append, verdicts_of_quiet n h_step.quiet, List.append_nil]
  cases h_step with
  | @succeeds report' h_stage h_lane h_result =>
    obtain rfl : report = report' := by simpa [endedEvent] using h_ok
    -- A good result comes from no failure at all, of compile jobs or of launch jobs.
    have h_none : f.join.failures ++ recordFailures f = [] := by
      cases h_failures : f.join.failures ++ recordFailures f with
      | nil => rfl
      | cons first rest => simp [result, h_failures] at h_result
    obtain rfl : f.report = report := by
      simpa [result, h_none] using h_result
    have h_stage' := h_layout.stage
    simp only [StageLayout, h_stage] at h_stage'
    obtain ⟨h_flush, h_records⟩ := h_layout.report
    refine ⟨?_, ?_, ?_, fun f' h_f' => by cases h_f'⟩
    · rw [h_quiet, h_flush, h.places f h_current, h_records]
      simp [done, h_lane, h_stage'.2]
    · rw [h_quiet, h_flush]
      intro v h_v failure h_failure
      have h_posted : (v.1, Except.error failure) ∈ f.posted := by
        rw [h.posted f h_current]
        exact List.mem_filterMap.2 ⟨v, h_v, by simp [h_failure]⟩
      have h_mem : failure ∈ recordFailures f :=
        List.mem_filterMap.2 ⟨_, h_posted, rfl⟩
      simp [(List.append_eq_nil_iff.1 h_none).2] at h_mem
    · rw [h_flush, h_layout.number]
      exact Nat.le_refl _
  | schedules | shares | reuses => simp at h_ok
  | _ => simp [endedEvent, joinedEvent] at h_ok

theorem over_of_run {threads : Nat} {now : Moment} {ms : List (Move C)} {es : List (Stamped C)}
    {report : Report} (h_run : run cfg env (start threads now) ms = some (t, es))
    (h_ok : Event.returned (.ok report) ∈ history es) : Over t (history es) report := by
  refine history_induction
    (P := fun _ t es => Event.returned (.ok report) ∈ es → Over t es report) (by simp) ?_ h_run h_ok
  intro ms m t es u fs h_run _ h_over h_step h_ok
  have h_layout := layout_of_run h_run
  have h_recorded := recorded_of_run h_run
  rcases List.mem_append.1 h_ok with h_ok | h_ok
  · exact (h_over h_ok).step h_layout h_step
  · cases h_step with
    | caller h_current h_step =>
      exact h_step.over h_recorded (h_layout.inFlush _ h_current) h_current h_ok
    | returns h_idle h_empty =>
      obtain rfl : report = {} := by simpa using h_ok
      refine ⟨?_, ?_, Nat.zero_le _, fun f h_f => by simp [h_idle] at h_f⟩
      all_goals
        simp [h_recorded.zero, Event.verdict?]
    | worker h_running h_job h_step => cases h_step <;> simp at h_ok
    | launcher h_lane h_step => cases h_step <;> simp at h_ok
    | _ => simp at h_ok

/-! ## Lost launch jobs -/

/-- A launch job is lost if the clock cannot represent the end of its wait, if it has no artifact
and cannot name the kernel of its record, or if its artifact panics in a way that the job cannot
report. -/
theorem lost_cause_of_run {threads : Nat} {now : Moment} {ms : List (Move C)}
    {es : List (Stamped C)} (h_run : run cfg env (start threads now) ms = some (t, es))
    {moment : Moment} {n seq : Nat} (h_lost : (moment, Event.launchJobLost n seq) ∈ es) :
    cfg.dispatchPatience.deadline? moment = none ∨ env.mute n seq = true ∨
      ∃ record artifact cause, (moment, Event.ran n seq record artifact (.lost cause)) ∈ es := by
  refine run_induction (P := fun _ _ es => (moment, Event.launchJobLost n seq) ∈ es →
    cfg.dispatchPatience.deadline? moment = none ∨ env.mute n seq = true ∨
      ∃ record artifact cause, (moment, Event.ran n seq record artifact (.lost cause)) ∈ es)
    (by simp) ?_ h_run h_lost
  intro ms m t es u fs _ _ h_before h_step h_lost
  rcases List.mem_append.1 h_lost with h_lost | h_lost
  · rcases h_before h_lost with h_none | h_mute | ⟨record, artifact, cause, h_ran⟩
    · exact .inl h_none
    · exact .inr (.inl h_mute)
    · exact .inr (.inr ⟨record, artifact, cause, List.mem_append_left _ h_ran⟩)
  · obtain ⟨e, h_e, h_eq⟩ := List.mem_map.1 h_lost
    obtain ⟨rfl, rfl⟩ := Prod.mk.inj h_eq
    -- Only the launch thread loses launch jobs, and it does so on four of its moves.
    have h_loud : Event.isLaunch (C := C) (.launchJobLost n seq) = true := rfl
    cases h_step with
    | @launcher job _ _ _ h_lane h_step =>
      cases h_step with
      | overflows h_phase h_deadline => exact .inl h_deadline
      | mutes _ _ _ h_mute =>
        obtain ⟨rfl, rfl⟩ := Event.launchJobLost.inj (List.mem_singleton.1 h_e)
        exact .inr (.inl h_mute)
      | expires _ _ _ h_mute =>
        simp only [List.mem_cons, reduceCtorEq, false_or, List.not_mem_nil, or_false,
          Event.launchJobLost.injEq] at h_e
        obtain ⟨rfl, rfl⟩ := h_e
        exact .inr (.inl h_mute)
      | @loses since artifact cause =>
        simp only [List.mem_cons, reduceCtorEq, false_or, List.not_mem_nil, or_false,
          Event.launchJobLost.injEq] at h_e
        obtain ⟨rfl, rfl⟩ := h_e
        refine .inr (.inr ⟨job.record, artifact, cause, List.mem_append_right _ ?_⟩)
        exact List.mem_map_of_mem (List.mem_cons_self ..)
      | _ => simp at h_e
    | caller h_current h_step => simp [h_step.quiet _ h_e] at h_loud
    | worker h_running h_job h_step => simp [h_step.quiet _ h_e] at h_loud
    | _ => simp at h_e

/-- In a history no launch job of a flush is lost because it could not name the kernel of its
record. -/
def NamesKernels (env : Environment C) (n : Nat) (es : List (Event C)) : Prop :=
  ∀ seq, Event.launchJobLost n seq ∈ es → env.mute n seq = false

/-! ## Good answers -/

/-- The reports of the flushes that return well. -/
def goodReports (es : List (Event C)) : List Report :=
  es.filterMap fun
    | .returned (.ok report) => some report
    | _ => none

theorem mem_goodReports {es : List (Event C)} {report : Report} :
    report ∈ goodReports es ↔ Event.returned (.ok report) ∈ es := by
  constructor
  · intro h
    obtain ⟨e, h_e, h_report⟩ := List.mem_filterMap.1 h
    split at h_report
    · cases h_report
      exact h_e
    · contradiction
  · exact fun h => List.mem_filterMap.2 ⟨_, h, rfl⟩

/-- Every record of a flush has run once, in order, and each run returned. -/
def AllCompleted (report : Report) (es : List (Event C)) : Prop :=
  (invocations report.flush es).map Prod.fst = List.range report.records ∧
    ∀ x ∈ invocations report.flush es, ∃ context, x.2 = .completed context

/-- A flush that is over without a failure has run all its records exactly if none of its launch
jobs was lost. -/
theorem completed_iff_of_over {report : Report} (h_over : Over t es report)
    (h_paired : Paired es) :
    AllCompleted report es ↔ ∀ seq, Event.launchJobLost report.flush seq ∉ es := by
  constructor
  · rintro ⟨h_places, h_completed⟩ seq h_lost
    -- As many good outcomes as launch jobs: every outcome is good, and a lost job has none.
    have h_all : completions (invocations report.flush es) =
        List.range report.records := by
      rw [completions_of_all_completed h_completed, h_places]
    have h_length : (successes (verdicts report.flush es)).length =
        (verdicts report.flush es).length := by
      rw [← h_paired.good, h_all, ← h_over.places, List.length_map]
    have h_none : (seq, none) ∈ verdicts report.flush es :=
      List.mem_filterMap.2 ⟨_, h_lost, by simp [Event.verdict?]⟩
    simpa using all_good_of_successes h_length _ h_none
  · intro h_kept
    -- No job is lost and none has failed, so all outcomes are good, and each good one has its run.
    have h_good : ∀ v ∈ verdicts report.flush es, v.2 = some (.ok ()) := by
      rintro ⟨seq, outcome⟩ h_v
      cases outcome with
      | none =>
        obtain ⟨e, h_e, h_verdict⟩ := List.mem_filterMap.1 h_v
        exact absurd (Event.lost_of_verdict? h_verdict ▸ h_e) (h_kept seq)
      | some outcome =>
        cases outcome with
        | ok => rfl
        | error failure => exact absurd rfl (h_over.good _ h_v failure)
    have h_all := successes_of_all_good h_good
    rw [← h_paired.good] at h_all
    have h_places := h_paired.places report.flush
    rw [← h_all] at h_places
    have h_completed := (completions_sublist _).eq_of_length_le h_places.length_le
    refine ⟨?_, completed_of_completions_eq h_completed⟩
    rw [← h_completed, h_all, h_over.places]

/-- A flush that returns well has run all its records exactly if none of its launch jobs was lost.
A launch job is lost only when the clock cannot represent the end of its wait, when it has no
artifact and cannot name the kernel of its record, or when its artifact panics in a way that it
cannot report; so if none of this happens, all have run. -/
theorem all_completed_iff_none_lost {threads : Nat} {now : Moment} {ms : List (Move C)}
    {es : List (Stamped C)} {report : Report}
    (h_run : run cfg env (start threads now) ms = some (t, es))
    (h_ok : Event.returned (.ok report) ∈ history es) :
    (AllCompleted report (history es) ↔
      ∀ seq, Event.launchJobLost report.flush seq ∉ history es) ∧
    (∀ moment seq, (moment, Event.launchJobLost report.flush seq) ∈ es →
      cfg.dispatchPatience.deadline? moment = none ∨ env.mute report.flush seq = true ∨
        ∃ record artifact cause,
          (moment, Event.ran report.flush seq record artifact (.lost cause)) ∈ es) ∧
    (cfg.dispatchPatience.deadline? t.now ≠ none → NamesKernels env report.flush (history es) →
      (∀ seq cause, (seq, .lost cause) ∉ invocations report.flush (history es)) →
      AllCompleted report (history es)) := by
  have h_iff := completed_iff_of_over (over_of_run h_run h_ok) (paired_of_run h_run)
  refine ⟨h_iff, fun moment seq h_lost => lost_cause_of_run h_run h_lost, ?_⟩
  intro h_clock h_names h_reported
  -- What the clock cannot represent at the loss it cannot represent at the end either.
  refine h_iff.2 fun seq h_lost => ?_
  obtain ⟨⟨moment, e⟩, h_e, rfl⟩ := List.mem_map.1 h_lost
  rcases lost_cause_of_run h_run h_e with h_none | h_mute | ⟨record, artifact, cause, h_ran⟩
  · exact h_clock (deadline?_eq_none_of_le h_none (moment_le_of_run h_run _ h_e))
  · simp [h_names seq h_lost] at h_mute
  · refine h_reported seq cause (List.mem_filterMap.2 ⟨_, List.mem_map_of_mem h_ran, ?_⟩)
    simp [Event.invocation?]

/-- Contexts are numbers, and every artifact adds one. -/
def adding : Environment Nat where
  codegen _ _ := .code fun _ n => .completed (n + 1)

/-- A flush of one record, as far as its launch job, and then `rest`. -/
def oneRecord (rest : List (Move Nat)) : List (Move Nat) :=
  [[.enqueue ⟨0, "k", "a"⟩, .flush], List.replicate 2 .caller, [.pick (.takeShared 0 0)],
    List.replicate 4 (.worker 0), List.replicate 4 .caller, rest].flatten

theorem one_record_completed :
    ∃ t es, run {} adding (start 1 0) (oneRecord (List.replicate 3 .launcher ++ [.caller])) =
        some (t, es) ∧
      Event.returned (.ok { flush := 1, records := 1, compiled := 1 }) ∈ history es ∧
      (∀ seq, Event.launchJobLost 1 seq ∉ history es) ∧
      AllCompleted { flush := 1, records := 1, compiled := 1 } (history es) := by
  have h_summary :
      (run {} adding (start 1 0) (oneRecord (List.replicate 3 .launcher ++ [.caller]))).map
        (fun r => (r.1.now, goodReports (history r.2), invocations 1 (history r.2))) =
      some (0, [{ flush := 1, records := 1, compiled := 1 }], [(0, .completed 1)]) := rfl
  obtain ⟨⟨t, es⟩, h_run, h_es⟩ := Option.map_eq_some_iff.1 h_summary
  simp only [Prod.mk.injEq] at h_es
  obtain ⟨h_now, h_reports, h_ran⟩ := h_es
  have h_ok : Event.returned (.ok { flush := 1, records := 1, compiled := 1 }) ∈ history es :=
    mem_goodReports.1 (by simp [h_reports])
  obtain ⟨h_iff, -, h_completed⟩ := all_completed_iff_none_lost h_run h_ok
  have h_all : AllCompleted { flush := 1, records := 1, compiled := 1 } (history es) := by
    refine h_completed ?_ (fun _ _ => rfl) ?_
    · rw [h_now]
      decide
    · simp [h_ran]
  exact ⟨t, es, h_run, h_ok, h_iff.1 h_all, h_all⟩

/-- A launch job may wait as long as a span can express. -/
def endless : Settings where
  dispatchPatience := .ofSeconds 18446744073709551615

/-- These settings are valid, and a flush of one record returns well, but its artifact has not
run: the clock cannot represent the end of the wait, and the launch job is lost. -/
theorem returns_well_without_running :
    endless.Valid ∧ endless.onPanic ≠ .abort ∧
      ∃ t es, run endless adding (start 1 0) (oneRecord [.launcher, .caller]) = some (t, es) ∧
        Event.returned (.ok { flush := 1, records := 1, compiled := 1 }) ∈ history es ∧
        invocations 1 (history es) = [] ∧
        ¬ AllCompleted { flush := 1, records := 1, compiled := 1 } (history es) := by
  have h_summary :
      (run endless adding (start 1 0) (oneRecord [.launcher, .caller])).map
        (fun r => (goodReports (history r.2), (invocations 1 (history r.2)).map Prod.fst)) =
      some ([{ flush := 1, records := 1, compiled := 1 }], []) := rfl
  obtain ⟨⟨t, es⟩, h_run, h_es⟩ := Option.map_eq_some_iff.1 h_summary
  obtain ⟨h_reports, h_places⟩ := Prod.mk.inj h_es
  have h_none : invocations 1 (history es) = [] := List.map_eq_nil_iff.1 h_places
  refine ⟨by decide, by decide, t, es, h_run, ?_, h_none, ?_⟩
  · exact mem_goodReports.1 (by simp [h_reports])
  · rintro ⟨h_all, -⟩
    simp [h_none] at h_all

end State

end KernelDispatch
