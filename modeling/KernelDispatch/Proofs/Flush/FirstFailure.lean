/-
  KernelDispatch.Proofs.Flush.FirstFailure

  What the failure of a flush names.

  A flush that runs others in spite of a failure puts the failures of its compile jobs,
  as they have come, before those of its launch jobs, which have come in the order of the
  records. If no deadline has passed and no compile job is lost, then the first
  failure is that of a task on which the code generator has failed, if there is one, and
  else that of the first record whose launch job has reported a failure
  (`first_failure_named`). A single worker compiles the tasks in the order in which they
  first occur, so the task is then the first one that has failed. A record whose launch
  job is lost has not run either, but nothing names it (`nothing_names_lost_record`).
-/
import KernelDispatch.Proofs.Flush.CompileFailures
import KernelDispatch.Proofs.Flush.Modes
import KernelDispatch.Proofs.Flush.Shortfall
import KernelDispatch.Proofs.Flush.SingleWorker

namespace KernelDispatch

variable {C : Type} {cfg : Settings} {env : Environment C}

/-! ## First failures -/

/-- The first failure that compile jobs of a flush have reported, and where. -/
theorem first_report {n : Nat} {es : List (Event C)} {first : Failure} {rest : List Failure}
    (h : (reports n es).filterMap Join.failure? = first :: rest) :
    ∃ past j later, es = past ++ .jobReported n j (.error first) :: later ∧
      ∀ j' failure, Event.jobReported n j' (.error failure) ∉ past := by
  rw [reports, List.filterMap_filterMap] at h
  obtain ⟨past, e, later, rfl, h_past, h_e, -⟩ := List.filterMap_eq_cons_iff.1 h
  obtain ⟨outcome, h_report, h_failure⟩ := Option.bind_eq_some_iff.1 h_e
  cases e with
  | jobReported flush j o =>
    simp only [Event.report?, Option.ite_none_right_eq_some, Option.some.injEq] at h_report
    obtain ⟨rfl, rfl⟩ := h_report
    cases o with
    | ok => cases h_failure
    | error failure =>
      cases h_failure
      refine ⟨past, j, later, rfl, fun j' failure h_mem => ?_⟩
      simpa [Event.report?, Join.failure?] using h_past _ h_mem
  | _ => simp [Event.report?] at h_report

/-- The first failure of a launch job, if the launch jobs have come to their ends in order. -/
theorem first_verdict {vs : List (Nat × Option Outcome)} {first : Failure} {rest : List Failure}
    (h_order : (vs.map Prod.fst).Pairwise (· < ·)) (h : failures (outcomes vs) = first :: rest) :
    ∃ seq, (seq, some (.error first)) ∈ vs ∧ ∀ seq' ∈ failedPlaces vs, seq ≤ seq' := by
  have h_flat : failures (outcomes vs) = vs.filterMap fun v => v.2.bind Join.failure? := by
    rw [failures_outcomes, List.filterMap_map]
    rfl
  rw [h_flat] at h
  obtain ⟨past, ⟨seq, outcome⟩, later, rfl, h_past, h_v, -⟩ := List.filterMap_eq_cons_iff.1 h
  obtain ⟨o, h_outcome, h_failure⟩ := Option.bind_eq_some_iff.1 h_v
  obtain rfl : outcome = some o := h_outcome
  cases o with
  | ok => cases h_failure
  | error failure =>
    cases h_failure
    refine ⟨seq, by simp, fun seq' h_seq' => ?_⟩
    obtain ⟨⟨place, verdict⟩, h_mem, h_place⟩ := List.mem_filterMap.1 h_seq'
    rw [List.map_append, List.map_cons, List.pairwise_append, List.pairwise_cons] at h_order
    rcases verdict with _ | failure | _
    · cases h_place
    · cases h_place
      rcases List.mem_append.1 h_mem with h_old | h_new
      · simpa [Join.failure?] using h_past _ h_old
      · rcases List.mem_cons.1 h_new with h_same | h_later
        · exact Nat.le_of_eq (Prod.mk.inj h_same).1.symm
        · exact Nat.le_of_lt (h_order.2.1.1 _ (List.mem_map_of_mem h_later))
    · cases h_place

/-- The places of the records that have not run to their end: their launch jobs have failed, or
they are lost. -/
def missedPlaces (vs : List (Nat × Option Outcome)) : List Nat :=
  vs.filterMap fun v =>
    match v.2 with
    | some (.ok ()) => none
    | _ => some v.1

theorem mem_missedPlaces {vs : List (Nat × Option Outcome)} {seq : Nat} :
    seq ∈ missedPlaces vs ↔ seq ∈ failedPlaces vs ∨ seq ∈ lostPlaces vs := by
  induction vs with
  | nil => simp [missedPlaces, failedPlaces, lostPlaces]
  | cons v vs ih =>
    obtain ⟨place, _ | _ | _⟩ := v <;>
      simp_all [missedPlaces, failedPlaces, lostPlaces, or_assoc, or_left_comm]

/-- A launch job that has failed is not lost. -/
theorem ne_of_failed_of_lost {vs : List (Nat × Option Outcome)} {seq seq' : Nat}
    (h_places : (vs.map Prod.fst).Nodup) (h_failed : seq ∈ failedPlaces vs)
    (h_lost : seq' ∈ lostPlaces vs) : seq ≠ seq' := by
  rintro rfl
  obtain ⟨⟨place, verdict⟩, h_v, h_place⟩ := List.mem_filterMap.1 h_failed
  obtain ⟨⟨place', verdict'⟩, h_v', h_place'⟩ := List.mem_filterMap.1 h_lost
  rcases verdict with _ | _ | _
  · cases h_place
  · cases verdict' with
    | none =>
      cases h_place
      cases h_place'
      cases List.inj_on_of_nodup_map h_places h_v h_v' rfl
    | some => cases h_place'
  · cases h_place

/-- A verdict with an outcome is the end of a launch job. -/
theorem Event.ended_of_verdict? {e : Event C} {n seq : Nat} {outcome : Outcome}
    (h : e.verdict? n = some (seq, some outcome)) :
    ∃ key waited, e = .recordEnded n seq key waited outcome := by
  cases e with
  | recordEnded flush seq' key waited o =>
    simp only [verdict?, Option.ite_none_right_eq_some, Option.some.injEq, Prod.mk.injEq] at h
    obtain ⟨rfl, rfl, rfl⟩ := h
    exact ⟨key, waited, rfl⟩
  | _ => simp [verdict?] at h

/-- Of two tasks the one that stands before the first record with the other comes first. -/
theorem idxOf_lt_of_before {before after : List (Record C)} {r x : Record C} (h_x : x ∈ before)
    (h_first : ∀ y ∈ before, y.key ≠ r.key) :
    ((before ++ r :: after).map Record.key).idxOf x.key <
      ((before ++ r :: after).map Record.key).idxOf r.key := by
  have h_mem : x.key ∈ before.map Record.key := List.mem_map_of_mem h_x
  have h_not : r.key ∉ before.map Record.key := by
    intro h_key
    obtain ⟨y, h_y, h_same⟩ := List.mem_map.1 h_key
    exact h_first y h_y h_same
  rw [List.map_append, List.idxOf_append_of_mem h_mem, List.idxOf_append_of_notMem h_not]
  exact Nat.lt_of_lt_of_le (List.idxOf_lt_length_iff.2 h_mem) (Nat.le_add_right ..)

namespace State

variable {s s' t s₀ : State C} {f : Flush C} {fs : List (Event C)} {threads : Nat} {now : Moment}
  {ms₀ ms : List (Move C)} {es₀ es : List (Stamped C)}

/-! ## Calls that have returned -/

/-- A call that began in the state `s₀` and stands at `t` has concluded in the state `s`, with the
result of the flush `f`, and its flush has not moved since. -/
structure ConcludedAt (cfg : Settings) (env : Environment C) (s₀ s : State C) (f : Flush C)
    (ms : List (Move C)) (es₁ : List (Stamped C)) (t : State C) (es : List (Stamped C)) : Prop where
  reached : run cfg env s₀ (.flush :: ms) = some (s, es₁)
  noCall : ∀ m ∈ ms, m.isCall = false
  current : s.current = some f
  stage : f.stage = .draining
  lane : s.lane = []
  answer : answers (history es) = [.returned (result f)]
  jobs : (∀ job ∈ s.jobs, job.flush ≠ s₀.flushes + 1) → ∀ job ∈ t.jobs, job.flush ≠ s₀.flushes + 1
  later : ∃ fs, history es = history es₁ ++ fs ∧ verdicts (s₀.flushes + 1) fs = [] ∧
    ((∀ job ∈ s.jobs, job.flush ≠ s₀.flushes + 1) →
      ∀ worker key call, Event.codegenCalled (s₀.flushes + 1) worker key call ∉ fs)

/-- A caller that ends a flush with launch jobs has dealt with all of them, unless it abandons its
flush. -/
theorem CallerStep.concludes (h_layout : FlushLayout cfg s f) (h_recorded : Recorded s fs)
    (h_f : s.current = some f) (h_runOthers : cfg.onFailure = .runOthers)
    (h_some : verdicts f.number fs ≠ []) {es : List (Event C)}
    (h_step : CallerStep cfg env s f s' es) (h_idle : s'.current = none) :
    f.stage = .draining ∧ s.lane = [] ∧ answers es = [.returned (result f)] ∧
      s'.jobs = s.jobs ∧ ∀ n worker key call, Event.codegenCalled n worker key call ∉ es := by
  cases h_step with
  | unwinds h_stage =>
    -- While it requests tasks a flush has no launch jobs.
    have h_stages := h_layout.stage
    simp only [StageLayout, h_stage] at h_stages
    have h_places := h_recorded.places f h_f
    rw [done, h_stages.1, h_stages.2.1, List.length_nil, Nat.zero_add, Nat.sub_self,
      List.range_zero, List.map_eq_nil_iff] at h_places
    exact absurd h_places h_some
  | abandons _ _ _ h_onFailure => simp [h_runOthers] at h_onFailure
  | succeeds h_stage h_lane h_result =>
    rw [h_result]
    exact ⟨h_stage, h_lane, rfl, rfl, by simp [endedEvent]⟩
  | fails h_stage h_lane h_result =>
    rw [h_result]
    exact ⟨h_stage, h_lane, rfl, rfl, by simp [endedEvent]⟩
  | _ => simp at h_idle

/-- A call with launch jobs that is over has concluded. -/
theorem concludedAt_of_call (h_before : run cfg env (start threads now) ms₀ = some (s₀, es₀))
    (h_run : run cfg env s₀ (.flush :: ms) = some (t, es))
    (h_noCall : ∀ m ∈ ms, m.isCall = false) (h_runOthers : cfg.onFailure = .runOthers)
    (h_idle : t.current = none) (h_some : verdicts (s₀.flushes + 1) (history es) ≠ []) :
    ∃ s f ms₁ es₁, ConcludedAt cfg env s₀ s f ms₁ es₁ t es := by
  have h_layout := layout_of_run h_before
  by_cases h_empty : s₀.backlog = []
  · obtain ⟨later, h_idled, h_history⟩ := idled_of_empty h_layout h_run h_noCall h_empty
    refine absurd ?_ h_some
    rw [h_history, ← List.singleton_append, verdicts_append,
      verdicts_of_noEntry _ fun e h_e => (h_idled.silent e h_e).1]
    rfl
  · obtain ⟨s, f, ms₁, es₁, u, fs, later, h_left, h_history⟩ :=
      leftAt_of_call h_layout h_run h_noCall h_empty h_idle
    have h_whole := run_append.2 ⟨s₀, es₀, es₁, h_before, h_left.reached, rfl⟩
    obtain ⟨h_number, -⟩ := number_of_call h_layout h_left.reached h_left.noCall h_left.current
    have h_silent := h_left.since.silent
    have h_verdicts : verdicts (s₀.flushes + 1) (fs ++ later) = [] := by
      rw [verdicts_append, verdicts_of_quiet _ h_left.leaves.quiet,
        verdicts_of_noEntry _ fun e h_e => (h_silent e h_e).1]
      rfl
    rw [h_history, List.append_assoc, verdicts_append, h_verdicts, List.append_nil,
      ← (launches_of_call es₁ h_before).1, ← h_number] at h_some
    obtain ⟨h_stage, h_lane, h_answers, h_jobs, h_calls⟩ := h_left.leaves.concludes
      ((layout_of_run h_whole).inFlush f h_left.current) (recorded_of_run h_whole) h_left.current
      h_runOthers h_some h_left.idle
    have h_since := h_jobs ▸ h_left.since.noJob (s₀.flushes + 1)
    refine ⟨s, f, ms₁, es₁, h_left.reached, h_left.noCall, h_left.current, h_stage, h_lane, ?_,
      fun h_gone => (h_since h_gone).1, fs ++ later, by rw [h_history, List.append_assoc],
      h_verdicts, fun h_gone worker key call h_e => ?_⟩
    · have h_open := unanswered_of_call h_layout h_left.reached h_left.noCall h_left.current
      rw [h_history, answers_append, answers_append, h_open, h_answers,
        answers_of_quiet fun e h_e => (h_silent e h_e).2.1]
      rfl
    · rcases List.mem_append.1 h_e with h_old | h_new
      · exact h_calls _ worker key call h_old
      · exact (h_since h_gone).2 worker key call h_new

/-! ## What the compile jobs have reported -/

/-- A flush whose wait is over, in time and without a lost job, has the failures that its compile
jobs have reported, and none of the jobs is left. -/
theorem reported_of_onTime (h_run : run cfg env (start threads now) ms = some (s, es))
    (h_f : s.current = some f) (h_stage : ¬ f.Requesting) (h_over : f.join.isOver = true)
    (h_onTime : ¬ Late f.number (history es))
    (h_kept : ∀ j worker, Event.compileJobLost f.number j worker ∉ history es) :
    f.join.failures = (reports f.number (history es)).filterMap Join.failure? ∧
      ∀ job ∈ s.jobs, job.flush ≠ f.number := by
  have h_consistent := consistent_of_run (rested_start threads now) h_run
  obtain ⟨_, _, -, -, -, h_own⟩ := (h_consistent.joined f h_f).received
  cases h_own with
  | waits h_on =>
    obtain ⟨h_failures, h_gone, -⟩ := h_consistent.of_received h_f h_stage h_over h_on
    exact ⟨h_failures, h_gone⟩
  | expired _ h_polled => exact absurd ⟨_, _, h_polled⟩ h_onTime
  | orphaned _ h_polled =>
    obtain ⟨j, worker, h_lost⟩ := lost_of_orphaned_of_run h_run h_polled
    exact absurd h_lost (h_kept j worker)

/-- A launch job that fails in time names the kernel of its record and the digest of its task. -/
theorem dispatch_of_ended (h_run : run cfg env (start threads now) ms = some (t, es))
    {n seq waited : Nat} {key : TaskId} {failure : Failure}
    (h_ended : Event.recordEnded n seq key waited (.error failure) ∈ history es)
    (h_onTime : (Event.recordEnded (C := C) n seq key waited (.error failure)).isLate = false) :
    ∃ batch r message, batchIn? n (history es) = some batch ∧ batch[seq]? = some r ∧
      r.key = key ∧ failure = .dispatch r.kernel r.key.digest message := by
  refine history_induction (P := fun _ _ es =>
    Event.recordEnded n seq key waited (.error failure) ∈ es →
      ∃ batch r message, batchIn? n es = some batch ∧ batch[seq]? = some r ∧ r.key = key ∧
        failure = .dispatch r.kernel r.key.digest message) (by simp) ?_ h_run h_ended
  intro ms m t es u fs h_prefix _ h_before h_step h_ended
  suffices h_now : ∃ batch r message, batchIn? n (history es) = some batch ∧
      batch[seq]? = some r ∧ r.key = key ∧ failure = .dispatch r.kernel r.key.digest message by
    obtain ⟨batch, r, message, h_batch, h_name⟩ := h_now
    exact ⟨batch, r, message, batchIn?_extend h_batch fs, h_name⟩
  rcases List.mem_append.1 h_ended with h_old | h_new
  · exact h_before h_old
  obtain ⟨job, rest, h_lane, rfl, rfl, rfl, h_cause⟩ := h_step.of_failed h_new
  have h_layout := layout_of_run h_prefix
  obtain ⟨f, h_f⟩ := h_layout.exists_flush h_lane
  have h_flush := h_layout.inFlush f h_f
  obtain ⟨h_number, h_key⟩ := h_flush.own job (by simp [h_lane])
  have h_name : ∃ message, failure = .dispatch job.record.kernel job.record.key.digest message := by
    rw [← h_key]
    rcases h_cause with ⟨since, h_slot, rfl⟩ | ⟨cause, rfl⟩
    · cases h_now : t.store.slot? job.key with
      | none => exact ⟨_, rfl⟩
      | some slot =>
        cases slot with
        | ready artifact => exact absurd h_now (h_slot artifact)
        | failed text => exact ⟨_, rfl⟩
        | pending => simp [h_now, missFailure, Event.isLate] at h_onTime
    · exact ⟨_, rfl⟩
  obtain ⟨message, h_name⟩ := h_name
  have h_batch := (enrolled_of_run (rested_start threads now) h_prefix).batch f h_f
  exact ⟨f.batch, job.record, message, h_number ▸ h_batch, h_flush.record_at h_lane, h_key.symm,
    h_name⟩

/-! ## The first failure -/

/-- What the first failure of flush `n` with this batch is: that of the first record with a task on
which the code generator has failed, and with one worker no task before it has failed; or,
if it has failed on none, that of the launch job at the first of these places. -/
inductive NamedFirst (env : Environment C) (threads n : Nat) (batch : List (Record C))
    (es : List (Event C)) (places : List Nat) (first : Failure) : Prop
  | compilation {before after : List (Record C)} {r : Record C} {message : String}
      (h_batch : batch = before ++ r :: after) (h_new : ∀ x ∈ before, x.key ≠ r.key)
      (h_fails : FailsToCompile env es n r.key message)
      (h_first : first = .compilation r.kernel r.key.headline r.key.digest message)
      (h_single : threads = 1 → ∀ x ∈ before, ∀ complaint,
        ¬ FailsToCompile env es n x.key complaint)
  | dispatch {seq waited : Nat} {r : Record C} {message : String}
      (h_compiles : ∀ key complaint, ¬ FailsToCompile env es n key complaint)
      (h_r : batch[seq]? = some r) (h_lowest : ∀ seq' ∈ places, seq ≤ seq')
      (h_ended : Event.recordEnded n seq r.key waited (.error first) ∈ es)
      (h_first : first = .dispatch r.kernel r.key.digest message)

/-- A first failure blames the code generator exactly if that has failed. -/
theorem NamedFirst.blames {n : Nat} {batch : List (Record C)} {places : List Nat} {first : Failure}
    (h : NamedFirst env threads n batch fs places first) :
    first.blamesCodegen = true ↔ ∃ key message, FailsToCompile env fs n key message := by
  cases h with
  | @compilation _ _ r message _ _ h_fails h_first =>
    exact ⟨fun _ => ⟨r.key, message, h_fails⟩, fun _ => by rw [h_first]; rfl⟩
  | dispatch h_compiles _ _ _ h_first =>
    constructor
    · rw [h_first]
      intro h_blames
      cases h_blames
    · rintro ⟨key, message, h_fails⟩
      exact absurd h_fails (h_compiles key message)

/-- The record whose failure is named is the first one that has not run to its end, unless one
before it has lost its launch job. -/
theorem NamedFirst.missed_iff {n : Nat} {batch : List (Record C)} {first : Failure}
    (h_places : ((verdicts n fs).map Prod.fst).Nodup)
    (h : NamedFirst env threads n batch fs (failedPlaces (verdicts n fs)) first) :
    NamedFirst env threads n batch fs (missedPlaces (verdicts n fs)) first ↔
      (∃ key message, FailsToCompile env fs n key message) ∨
        ∃ seq ∈ failedPlaces (verdicts n fs), ∀ seq' ∈ lostPlaces (verdicts n fs), seq < seq' := by
  constructor
  · intro h_missed
    cases h_missed with
    | compilation _ _ h_fails => exact .inl ⟨_, _, h_fails⟩
    | @dispatch seq _ _ _ _ _ h_lowest h_ended =>
      have h_failed : seq ∈ failedPlaces (verdicts n fs) :=
        List.mem_filterMap.2 ⟨_, List.mem_filterMap.2 ⟨_, h_ended, if_pos rfl⟩, rfl⟩
      refine .inr ⟨seq, h_failed, fun seq' h_lost => ?_⟩
      exact Nat.lt_of_le_of_ne (h_lowest seq' (mem_missedPlaces.2 (.inr h_lost)))
        (ne_of_failed_of_lost h_places h_failed h_lost)
  · intro h_known
    cases h with
    | compilation h_batch h_new h_fails h_first h_single =>
      exact .compilation h_batch h_new h_fails h_first h_single
    | @dispatch least _ _ _ h_compiles h_r h_lowest h_ended h_first =>
      refine .dispatch h_compiles h_r (fun seq' h_missed => ?_) h_ended h_first
      rcases h_known with ⟨key, message, h_fails⟩ | ⟨seq, h_failed, h_unlost⟩
      · exact absurd h_fails (h_compiles key message)
      · rcases mem_missedPlaces.1 h_missed with h_failed' | h_lost
        · exact h_lowest seq' h_failed'
        · exact Nat.le_of_lt (Nat.lt_of_le_of_lt (h_lowest seq h_failed) (h_unlost seq' h_lost))

namespace ConcludedAt

variable {ms' : List (Move C)} {es₁ : List (Stamped C)}

/-- The code generator is not called any more after the flush has come to its result. -/
theorem fails_before (h : ConcludedAt cfg env s₀ s f ms es₁ t es)
    (h_gone : ∀ job ∈ s.jobs, job.flush ≠ s₀.flushes + 1) {key : TaskId} {message : String}
    (h_fails : FailsToCompile env (history (es₀ ++ es)) (s₀.flushes + 1) key message) :
    FailsToCompile env (history (es₀ ++ es₁)) (s₀.flushes + 1) key message := by
  obtain ⟨call, result, h_built, h_complaint⟩ := h_fails
  obtain ⟨fs, h_split, -, h_calls⟩ := h.later
  rw [history_append, h_split, ← List.append_assoc, ← history_append] at h_built
  rcases h_built.of_append with h_old | ⟨past, worker, later, rfl, -⟩
  · exact ⟨call, result, h_old, h_complaint⟩
  · exact absurd (by simp) (h_calls h_gone worker key call)

/-- The flush at its result, with all its failures. -/
theorem failures_eq (h : ConcludedAt cfg env s₀ s f ms es₁ t es)
    (h_before : run cfg env (start threads now) ms₀ = some (s₀, es₀))
    (h_onTime : Punctual (history es))
    (h_kept : ∀ j worker, Event.compileJobLost (s₀.flushes + 1) j worker ∉ history es) :
    f.number = s₀.flushes + 1 ∧ f.batch = s₀.backlog ∧
      f.join.failures =
        (reports (s₀.flushes + 1) (history (es₀ ++ es₁))).filterMap Join.failure? ∧
      recordFailures f = failures (outcomes (verdicts (s₀.flushes + 1) (history es))) ∧
      (∀ job ∈ s.jobs, job.flush ≠ s₀.flushes + 1) := by
  have h_whole := run_append.2 ⟨s₀, es₀, es₁, h_before, h.reached, rfl⟩
  obtain ⟨h_number, h_batch⟩ :=
    number_of_call (layout_of_run h_before) h.reached h.noCall h.current
  obtain ⟨fs, h_split, h_none, -⟩ := h.later
  have h_sub {e : Event C} (h_flush : e.flush? = some f.number)
      (h_e : e ∈ history (es₀ ++ es₁)) : e ∈ history es := by
    rw [h_split]
    exact List.mem_append_left _ (mem_of_call h_before (h_number ▸ h_flush) h_e)
  have h_consistent := consistent_of_run (rested_start threads now) h_whole
  have h_past : f.PastJoin cfg := by simp [Flush.PastJoin, h.stage]
  have h_notLate : ¬ Late f.number (history (es₀ ++ es₁)) := by
    rintro ⟨waited, join, h_polled⟩
    simpa [Event.isLate] using h_onTime _ (h_sub rfl h_polled)
  obtain ⟨h_failures, h_gone⟩ := reported_of_onTime h_whole h.current
    (by simp [Flush.Requesting, h.stage]) ((h_consistent.joined f h.current).isOver h_past)
    h_notLate (fun j worker h_lost => h_kept j worker (h_number ▸ h_sub rfl h_lost))
  refine ⟨h_number, h_batch, h_number ▸ h_failures, ?_, h_number ▸ h_gone⟩
  have h_posted := h_consistent.recorded.posted f h.current
  rw [h_number, (launches_of_call es₁ h_before).1] at h_posted
  rw [h_split, verdicts_append, h_none, List.append_nil, ← h_posted]
  rfl

/-- The launch jobs have come to their ends in the order of their records. -/
theorem places_increasing (h : ConcludedAt cfg env s₀ s f ms es₁ t es)
    (h_before : run cfg env (start threads now) ms₀ = some (s₀, es₀)) :
    ((verdicts (s₀.flushes + 1) (history es)).map Prod.fst).Pairwise (· < ·) := by
  have h_whole := run_append.2 ⟨s₀, es₀, es₁, h_before, h.reached, rfl⟩
  obtain ⟨fs, h_split, h_none, -⟩ := h.later
  have h_places := (recorded_of_run h_whole).places f h.current
  rw [(number_of_call (layout_of_run h_before) h.reached h.noCall h.current).1,
    (launches_of_call es₁ h_before).1] at h_places
  rw [h_split, verdicts_append, h_none, List.append_nil, h_places]
  exact List.pairwise_lt_range

/-- If a compile job has reported a failure, the first one to do so is named. -/
theorem named_of_report (h : ConcludedAt cfg env s₀ s f ms es₁ t es)
    (h_before : run cfg env (start threads now) ms₀ = some (s₀, es₀))
    (h_batch : batchIn? (s₀.flushes + 1) (history (es₀ ++ es₁)) = some s₀.backlog)
    (h_gone : ∀ job ∈ s.jobs, job.flush ≠ s₀.flushes + 1)
    (h_kept : ∀ j worker, Event.compileJobLost (s₀.flushes + 1) j worker ∉ history (es₀ ++ es₁))
    {first : Failure} {rest : List Failure}
    (h_reports : (reports (s₀.flushes + 1) (history (es₀ ++ es₁))).filterMap Join.failure? =
      first :: rest) (places : List Nat) :
    NamedFirst env threads (s₀.flushes + 1) s₀.backlog (history (es₀ ++ es)) places first := by
  have h_whole := run_append.2 ⟨s₀, es₀, es₁, h_before, h.reached, rfl⟩
  obtain ⟨fs, h_split, -, -⟩ := h.later
  obtain ⟨past, j, later, h_history, h_past⟩ := first_report h_reports
  have h_reported : Event.jobReported (s₀.flushes + 1) j (.error first) ∈ history (es₀ ++ es₁) := by
    rw [h_history]
    exact List.mem_append_right _ (List.mem_cons_self ..)
  obtain ⟨r, message, h_r, h_scheduled, h_fails, h_first⟩ :=
    failure_of_reported h_whole h_reported
  -- The record is the first one with its task.
  rw [firstRecord?, h_batch, Option.bind_some, List.find?_eq_some_iff_append] at h_r
  obtain ⟨-, before, after, h_records, h_new⟩ := h_r
  have h_new (x : Record C) (h_x : x ∈ before) : x.key ≠ r.key := by simpa using h_new x h_x
  refine .compilation h_records h_new ?_ h_first ?_
  · rw [history_append, h_split, ← List.append_assoc, ← history_append]
    exact h_fails.extend fs
  · rintro rfl x h_x complaint h_fails'
    obtain ⟨j', failure', h_e', h_scheduled'⟩ :=
      reported_of_failsToCompile h_whole h_gone h_kept (h.fails_before h_gone h_fails')
    -- The job of a task before it has reported later, so its number is higher.
    have h_lt : j < j' := by
      rw [h_history] at h_e'
      rcases List.mem_append.1 h_e' with h_old | h_new'
      · exact absurd h_old (h_past j' failure')
      rcases List.mem_cons.1 h_new' with h_same | h_later
      · obtain ⟨-, rfl, -⟩ := Event.jobReported.inj h_same
        have h_filed := filed_of_run (rested_start 1 now) h_whole j'
        exact absurd (h_filed.scheduled_once h_scheduled h_scheduled').2 (h_new x h_x).symm
      · exact (h_history ▸ inLine_of_run h_whole).lt_of_later h_later
    obtain ⟨batch, h_batch', h_behind⟩ :=
      (enrolled_of_run (rested_start 1 now) h_whole).order _ _ _ _ _ h_scheduled h_scheduled' h_lt
    obtain rfl := Option.some.inj (h_batch.symm.trans h_batch')
    have h_front : (s₀.backlog.map Record.key).idxOf x.key <
        (s₀.backlog.map Record.key).idxOf r.key := by
      rw [h_records]
      exact idxOf_lt_of_before h_x h_new
    exact absurd h_front (Nat.lt_asymm h_behind)

/-- If no compile job has reported a failure, the code generator has failed on no task. -/
theorem compiles_of_noReport (h : ConcludedAt cfg env s₀ s f ms es₁ t es)
    (h_before : run cfg env (start threads now) ms₀ = some (s₀, es₀))
    (h_gone : ∀ job ∈ s.jobs, job.flush ≠ s₀.flushes + 1)
    (h_kept : ∀ j worker, Event.compileJobLost (s₀.flushes + 1) j worker ∉ history (es₀ ++ es₁))
    (h_reports : (reports (s₀.flushes + 1) (history (es₀ ++ es₁))).filterMap Join.failure? = [])
    {key : TaskId} {message : String} :
    ¬ FailsToCompile env (history (es₀ ++ es)) (s₀.flushes + 1) key message := by
  intro h_fails
  have h_whole := run_append.2 ⟨s₀, es₀, es₁, h_before, h.reached, rfl⟩
  obtain ⟨j, failure, h_reported, -⟩ :=
    reported_of_failsToCompile h_whole h_gone h_kept (h.fails_before h_gone h_fails)
  have h_failure : failure ∈
      (reports (s₀.flushes + 1) (history (es₀ ++ es₁))).filterMap Join.failure? :=
    List.mem_filterMap.2 ⟨_, mem_reports.2 ⟨j, h_reported⟩, rfl⟩
  rw [h_reports] at h_failure
  cases h_failure

/-- If no compile job has reported a failure, the first launch job to fail is named. -/
theorem named_of_verdict (h : ConcludedAt cfg env s₀ s f ms es₁ t es)
    (h_before : run cfg env (start threads now) ms₀ = some (s₀, es₀))
    (h_run : run cfg env s₀ (.flush :: ms') = some (t, es))
    (h_batch : batchIn? (s₀.flushes + 1) (history (es₀ ++ es₁)) = some s₀.backlog)
    (h_gone : ∀ job ∈ s.jobs, job.flush ≠ s₀.flushes + 1) (h_onTime : Punctual (history es))
    (h_kept : ∀ j worker, Event.compileJobLost (s₀.flushes + 1) j worker ∉ history (es₀ ++ es₁))
    (h_reports : (reports (s₀.flushes + 1) (history (es₀ ++ es₁))).filterMap Join.failure? = [])
    {first : Failure} {rest : List Failure}
    (h_failures : failures (outcomes (verdicts (s₀.flushes + 1) (history es))) = first :: rest) :
    NamedFirst env threads (s₀.flushes + 1) s₀.backlog (history (es₀ ++ es))
      (failedPlaces (verdicts (s₀.flushes + 1) (history es))) first := by
  have h_whole := run_append.2 ⟨s₀, es₀, es₁, h_before, h.reached, rfl⟩
  obtain ⟨fs, h_split, -⟩ := h.later
  obtain ⟨seq, h_verdict, h_lowest⟩ := first_verdict (h.places_increasing h_before) h_failures
  obtain ⟨e, h_e, h_eq⟩ := List.mem_filterMap.1 h_verdict
  obtain ⟨key, waited, rfl⟩ := Event.ended_of_verdict? h_eq
  have h_e' : Event.recordEnded (s₀.flushes + 1) seq key waited (.error first) ∈
      history (es₀ ++ es) := by
    rw [history_append]
    exact List.mem_append_right _ h_e
  obtain ⟨batch, r, message, h_batch', h_r, rfl, h_first⟩ :=
    dispatch_of_ended (run_append.2 ⟨s₀, es₀, es, h_before, h_run, rfl⟩) h_e' (h_onTime _ h_e)
  rw [history_append, h_split, ← List.append_assoc, ← history_append] at h_batch'
  obtain rfl := Option.some.inj ((batchIn?_extend h_batch fs).symm.trans h_batch')
  exact .dispatch (fun _ _ => h.compiles_of_noReport h_before h_gone h_kept h_reports) h_r h_lowest
    h_e' h_first

/-- The failures of compile jobs stand before those of launch jobs, and the first of all is named. -/
theorem named_of_failures (h : ConcludedAt cfg env s₀ s f ms es₁ t es)
    (h_before : run cfg env (start threads now) ms₀ = some (s₀, es₀))
    (h_run : run cfg env s₀ (.flush :: ms') = some (t, es))
    (h_batch : batchIn? (s₀.flushes + 1) (history (es₀ ++ es₁)) = some s₀.backlog)
    (h_gone : ∀ job ∈ s.jobs, job.flush ≠ s₀.flushes + 1) (h_onTime : Punctual (history es))
    (h_kept : ∀ j worker, Event.compileJobLost (s₀.flushes + 1) j worker ∉ history (es₀ ++ es₁))
    {first : Failure} {rest : List Failure}
    (h_failures : (reports (s₀.flushes + 1) (history (es₀ ++ es₁))).filterMap Join.failure? ++
      failures (outcomes (verdicts (s₀.flushes + 1) (history es))) = first :: rest) :
    NamedFirst env threads (s₀.flushes + 1) s₀.backlog (history (es₀ ++ es))
      (failedPlaces (verdicts (s₀.flushes + 1) (history es))) first := by
  cases h_reports : (reports (s₀.flushes + 1) (history (es₀ ++ es₁))).filterMap Join.failure? with
  | nil =>
    rw [h_reports, List.nil_append] at h_failures
    exact h.named_of_verdict h_before h_run h_batch h_gone h_onTime h_kept h_reports h_failures
  | cons =>
    rw [h_reports, List.cons_append] at h_failures
    obtain ⟨rfl, -⟩ := List.cons.inj h_failures
    exact h.named_of_report h_before h_batch h_gone h_kept h_reports _

end ConcludedAt

/-- A flush runs others, no deadline passes in it, no compile job is lost, and some record does not
run to its end. If no launch job has reported a failure and every task has compiled, the flush
returns well all the same. Otherwise its error counts the failures that were reported. It names the
failure of the code generator on a task, under the first record with that task, if there is one, and
with a single worker the task that comes first; else the first failure of a launch job in the order
of the records. So it blames the code generator exactly if that has failed, and what it names is the
first of all records that have not run to their end unless the launch job of an earlier one is
lost. -/
theorem first_failure_named
    (h_before : run cfg env (start threads now) ms₀ = some (s₀, es₀))
    (h_run : run cfg env s₀ (.flush :: ms) = some (t, es))
    (h_noCall : ∀ m ∈ ms, m.isCall = false) (h_idle : t.current = none)
    (h_runOthers : cfg.onFailure = .runOthers) (h_onTime : Punctual (history es))
    (h_kept : ∀ j worker, Event.compileJobLost (s₀.flushes + 1) j worker ∉ history es)
    (h_missed : missedPlaces (verdicts (s₀.flushes + 1) (history es)) ≠ []) :
    (∃ report, answers (history es) = [.returned (.ok report)] ∧
      failedPlaces (verdicts (s₀.flushes + 1) (history es)) = [] ∧
      ∀ key message, ¬ FailsToCompile env (history (es₀ ++ es)) (s₀.flushes + 1) key message) ∨
    ∃ failure first, answers (history es) = [.returned (.error failure)] ∧
      failure = .unfinished (failedPlaces (verdicts (s₀.flushes + 1) (history es))).length
        s₀.backlog.length first ∧
      NamedFirst env threads (s₀.flushes + 1) s₀.backlog (history (es₀ ++ es))
        (failedPlaces (verdicts (s₀.flushes + 1) (history es))) first ∧
      (failure.blamesCodegen = true ↔ ∃ key message,
        FailsToCompile env (history (es₀ ++ es)) (s₀.flushes + 1) key message) ∧
      (NamedFirst env threads (s₀.flushes + 1) s₀.backlog (history (es₀ ++ es))
          (missedPlaces (verdicts (s₀.flushes + 1) (history es))) first ↔
        (∃ key message,
          FailsToCompile env (history (es₀ ++ es)) (s₀.flushes + 1) key message) ∨
        ∃ seq ∈ failedPlaces (verdicts (s₀.flushes + 1) (history es)),
          ∀ seq' ∈ lostPlaces (verdicts (s₀.flushes + 1) (history es)), seq < seq') := by
  have h_some : verdicts (s₀.flushes + 1) (history es) ≠ [] := by
    intro h_none
    simp [h_none, missedPlaces] at h_missed
  obtain ⟨s, f, ms₁, es₁, h⟩ :=
    concludedAt_of_call h_before h_run h_noCall h_runOthers h_idle h_some
  have h_whole := run_append.2 ⟨s₀, es₀, es₁, h_before, h.reached, rfl⟩
  obtain ⟨h_number, h_records, h_joined, h_launched, h_gone⟩ :=
    h.failures_eq h_before h_onTime h_kept
  have h_batch := (enrolled_of_run (rested_start threads now) h_whole).batch f h.current
  rw [h_number, h_records] at h_batch
  have h_kept' (j worker : Nat) :
      Event.compileJobLost (s₀.flushes + 1) j worker ∉ history (es₀ ++ es₁) := by
    intro h_lost
    obtain ⟨fs, h_split, -⟩ := h.later
    refine h_kept j worker ?_
    rw [h_split]
    exact List.mem_append_left _ (mem_of_call h_before rfl h_lost)
  have h_length := length_failedPlaces (verdicts (s₀.flushes + 1) (history es))
  rw [← h_launched] at h_length
  have h_report := ((layout_of_run h_whole).inFlush f h.current).report.2
  cases h_all : f.join.failures ++ recordFailures f with
  | nil =>
    obtain ⟨h_none, h_none'⟩ := List.append_eq_nil_iff.1 h_all
    refine .inl ⟨f.report, ?_, ?_, fun _ _ => ?_⟩
    · rw [h.answer, result, h_all]
    · rw [← List.length_eq_zero_iff, h_length, h_none', List.length_nil]
    · exact h.compiles_of_noReport h_before h_gone h_kept' (h_joined ▸ h_none)
  | cons first rest =>
    have h_answer : answers (history es) = [.returned (.error (.unfinished
        (failedPlaces (verdicts (s₀.flushes + 1) (history es))).length s₀.backlog.length
        first))] := by
      rw [h.answer, result, h_all, h_report, h_records, h_length]
    have h_named : NamedFirst env threads (s₀.flushes + 1) s₀.backlog (history (es₀ ++ es))
        (failedPlaces (verdicts (s₀.flushes + 1) (history es))) first := by
      rw [h_joined, h_launched] at h_all
      exact h.named_of_failures h_before h_run h_batch h_gone h_onTime h_kept' h_all
    -- The launch jobs of the call are all that the flush has had.
    have h_same := (launches_of_call es h_before).1
    have h_places := (h.places_increasing h_before).imp Nat.ne_of_lt
    refine .inr ⟨_, first, h_answer, rfl, h_named, h_named.blames, ?_⟩
    rw [← h_same] at h_named h_places ⊢
    exact h_named.missed_iff h_places

/-- The artifact of the first of two records panics, and the task of the second one does not
compile. The error names the second one. -/
theorem failed_compilation_named_first :
    ∃ s₀ es₀ t es,
      run {} mixed (start 1 0) [.enqueue ⟨0, "k", "p"⟩, .enqueue ⟨1, "k", "b"⟩] =
        some (s₀, es₀) ∧
      run {} mixed s₀ (.flush :: bothCompiled) = some (t, es) ∧
      missedPlaces (verdicts 1 (history es)) = [0, 1] ∧
      answers (history es) = [.returned (.error (.unfinished 2 2 noB))] ∧
      NamedFirst mixed 1 1 s₀.backlog (history (es₀ ++ es)) [0, 1] noB := by
  have h_summary : ((run {} mixed (start 1 0)
      [.enqueue ⟨0, "k", "p"⟩, .enqueue ⟨1, "k", "b"⟩]).bind fun r₀ =>
        (run {} mixed r₀.1 (.flush :: bothCompiled)).map fun r =>
          (r₀.1.flushes, r.1.current.isNone, (history r.2).all (fun e => !e.isLate),
            (history r.2).all (fun e => !e.losesJob 1), missedPlaces (verdicts 1 (history r.2)),
            failedPlaces (verdicts 1 (history r.2)), answers (history r.2))) =
      some (0, true, true, true, [0, 1], [0, 1],
        [.returned (.error (.unfinished 2 2 noB))]) := rfl
  obtain ⟨⟨s₀, es₀⟩, h_before, h_later⟩ := Option.bind_eq_some_iff.1 h_summary
  obtain ⟨⟨t, es⟩, h_run, h_eq⟩ := Option.map_eq_some_iff.1 h_later
  simp only [Prod.mk.injEq, Option.isNone_iff_eq_none] at h_eq
  obtain ⟨h_flushes, h_idle, h_onTime, h_kept, h_missed, h_failed, h_answers⟩ := h_eq
  have h_number : s₀.flushes + 1 = 1 := by rw [h_flushes]
  rcases first_failure_named h_before h_run (by decide) h_idle rfl (punctual_of_all h_onTime)
      (fun j worker h_lost => by
        simpa [h_number, Event.losesJob] using List.all_eq_true.1 h_kept _ h_lost)
      (by simp [h_number, h_missed]) with
    ⟨report, h_answer, -⟩ | ⟨failure, first, h_answer, rfl, h_named, -, -⟩
  · simp [h_answers] at h_answer
  obtain rfl : noB = first := by
    have h_same := h_answers.symm.trans h_answer
    simp only [List.cons.injEq, Event.returned.injEq, Except.error.injEq,
      Failure.unfinished.injEq] at h_same
    exact h_same.1.2.2
  rw [h_number, h_failed] at h_named
  exact ⟨s₀, es₀, t, es, h_before, h_run, h_missed, h_answers, h_named⟩

/-- With valid settings and a clock that can represent all deadlines, a flush in which no deadline
passes and no compile job is lost returns well, although its only record has not run to its end: the
artifact panics, and the launch job cannot report that. -/
theorem nothing_names_lost_record :
    ({} : Settings).Valid ∧ ({} : Settings).onFailure = .runOthers ∧
      ∃ t es, run {} dying (start 1 0) (oneRecord (List.replicate 3 .launcher ++ [.caller])) =
          some (t, es) ∧
        t.current = none ∧ Punctual (history es) ∧
        (∀ j worker, Event.compileJobLost 1 j worker ∉ history es) ∧
        ({} : Settings).compilePatience.deadline? t.now ≠ none ∧
        ({} : Settings).dispatchPatience.deadline? t.now ≠ none ∧
        missedPlaces (verdicts 1 (history es)) = [0] ∧
        answers (history es) = [.returned (.ok { flush := 1, records := 1, compiled := 1 })] := by
  have h_summary :
      (run {} dying (start 1 0) (oneRecord (List.replicate 3 .launcher ++ [.caller]))).map
        (fun r => (r.1.now, r.1.current.isNone, (history r.2).all (fun e => !e.isLate),
          (history r.2).all (fun e => !e.losesJob 1), missedPlaces (verdicts 1 (history r.2)),
          answers (history r.2))) =
      some (0, true, true, true, [0],
        [.returned (.ok { flush := 1, records := 1, compiled := 1 })]) := rfl
  obtain ⟨⟨t, es⟩, h_run, h_eq⟩ := Option.map_eq_some_iff.1 h_summary
  simp only [Prod.mk.injEq, Option.isNone_iff_eq_none] at h_eq
  obtain ⟨h_now, h_idle, h_onTime, h_kept, h_missed, h_answers⟩ := h_eq
  refine ⟨by decide, rfl, t, es, h_run, h_idle, punctual_of_all h_onTime, fun j worker h_lost => ?_,
    ?_, ?_, h_missed, h_answers⟩
  · simpa [Event.losesJob] using List.all_eq_true.1 h_kept _ h_lost
  · rw [h_now]
    decide
  · rw [h_now]
    decide

end State

end KernelDispatch
