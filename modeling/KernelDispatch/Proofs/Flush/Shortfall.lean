/-
  KernelDispatch.Proofs.Flush.Shortfall

  What a failed flush says about its records.

  A launch job comes to a good end, to a failure, or is lost; the flush counts the
  failures (`length_verdicts`). So the records that a failed flush counts are those
  whose artifact has not run to a good end, but for those whose launch job is lost.

  A flush of which every record has run still fails if it has kept a failure of its
  wait for the compile jobs. The slots of its tasks hold artifacts then, so either
  they are not what its own jobs have put there (`Stale`), or the wait has ended
  between the moment at which a job settled its slot and the moment at which it would
  have reported (`Overtaken`).
-/
import KernelDispatch.Proofs.Flush.Filing
import KernelDispatch.Proofs.Flush.Order
import KernelDispatch.Proofs.Flush.Provenance
import KernelDispatch.Proofs.Flush.Return
import KernelDispatch.Proofs.Flush.Supply

namespace KernelDispatch

variable {C : Type} {cfg : Settings} {env : Environment C}

/-! ## Counting launch jobs -/

/-- The places of launch jobs that are lost. -/
def lostPlaces (vs : List (Nat × Option Outcome)) : List Nat :=
  vs.filterMap fun v =>
    match v.2 with
    | none => some v.1
    | some _ => none

/-- The failures in the outcomes of launch jobs. -/
def failures (ps : List (Nat × Outcome)) : List Failure :=
  ps.filterMap fun p => Join.failure? p.2

/-- Every launch job that has come to an end has failed, has done well, or is lost. -/
theorem length_verdicts (vs : List (Nat × Option Outcome)) :
    (failures (outcomes vs)).length + (successes vs).length + (lostPlaces vs).length =
      vs.length := by
  induction vs with
  | nil => rfl
  | cons v vs ih =>
    obtain ⟨seq, outcome⟩ := v
    match outcome with
    | none | some (.ok ()) | some (.error _) =>
      simp only [failures, outcomes, successes, lostPlaces, List.filterMap_cons, Option.map_none,
        Option.map_some, Join.failure?, List.length_cons] at ih ⊢
      omega

theorem ran_of_mem_completions {n seq : Nat} {es : List (Event C)}
    (h : seq ∈ completions (invocations n es)) :
    ∃ r artifact result, Event.ran n seq r artifact result ∈ es := by
  have h_place : seq ∈ (invocations n es).map Prod.fst := (completions_sublist _).subset h
  obtain ⟨⟨_, result⟩, h_mem, rfl⟩ := List.mem_map.1 h_place
  obtain ⟨e, h_e, h_invocation⟩ := List.mem_filterMap.1 h_mem
  cases e with
  | ran flush seq' r artifact result' =>
    simp only [Event.invocation?] at h_invocation
    split at h_invocation
    · next h_flush =>
      obtain ⟨rfl, -⟩ := Prod.mk.inj (Option.some.inj h_invocation)
      subst h_flush
      exact ⟨r, artifact, result', h_e⟩
    · contradiction
  | _ => simp [Event.invocation?] at h_invocation

/-! ## Failures without a failed record -/

/-- A compile job of another flush has settled a slot. -/
def Stale (n : Nat) (es : List (Event C)) : Prop :=
  ∃ n' j key content, n' ≠ n ∧ Event.slotSettled n' j key content true ∈ es

/-- The deadline of the wait for the compile jobs has passed after one of them has put its artifact
into its slot and before it has reported. -/
def Overtaken (n : Nat) (es : List (Event C)) : Prop :=
  ∃ past waited join later j key artifact,
    es = past ++ .polled n (.expired waited) join :: later ∧
      Event.slotSettled n j key (.ready artifact) true ∈ past ∧
      ∀ outcome, Event.jobReported n j outcome ∉ past

theorem Stale.append_left {n : Nat} {es : List (Event C)} (h : Stale n es) (fs : List (Event C)) :
    Stale n (es ++ fs) := by
  obtain ⟨n', j, key, content, h_ne, h_e⟩ := h
  exact ⟨n', j, key, content, h_ne, List.mem_append_left _ h_e⟩

theorem Overtaken.append_left {n : Nat} {es : List (Event C)} (h : Overtaken n es)
    (fs : List (Event C)) : Overtaken n (es ++ fs) := by
  obtain ⟨past, waited, join, later, j, key, artifact, rfl, h_e, h_none⟩ := h
  exact ⟨past, waited, join, later ++ fs, j, key, artifact, by simp, h_e, h_none⟩

/-- An artifact in the slot of a task that a flush has scheduled was put there by its own compile
job, unless a job of another flush has settled a slot. -/
theorem SlotOrigin.published_or_stale {before : Option (Slot (Artifact C))} {key : TaskId}
    {artifact : Artifact C} {n j : Nat} {es : List (Event C)}
    (h : SlotOrigin before key es (some (.ready artifact)))
    (h_scheduled : Event.scheduled n j key ∈ es)
    (h_origin : ∀ j' c, Event.slotSettled n j' key c true ∈ es →
      Event.scheduled n j' key ∈ es) :
    Stale n es ∨ writer? key es = some (.slotSettled n j key (.ready artifact) true) := by
  have h_job : j ∈ jobsFor key es := State.mem_jobsFor h_scheduled
  cases h with
  | kept _ h_jobs => simp [h_jobs] at h_job
  | @written j₀ e _ _ h_jobs h_writer h_content =>
    have h_e : e ∈ es := List.mem_of_find?_eq_some h_writer
    have h_writes : e.writes key = true := List.find?_some h_writer
    cases e with
    | slotSettled n' j' key' content changed =>
      simp only [Event.writes, Bool.and_eq_true, decide_eq_true_eq] at h_writes
      obtain ⟨rfl, rfl⟩ := h_writes
      obtain rfl : content = .ready artifact := by simpa [Event.written?] using h_content
      by_cases h_n : n' = n
      · -- Only one job has been scheduled for the task, so this one is it.
        subst h_n
        have h_job' : j' ∈ jobsFor key' es := State.mem_jobsFor (h_origin j' _ h_e)
        rw [h_jobs, List.mem_singleton] at h_job h_job'
        subst h_job h_job'
        exact .inr h_writer
      · exact .inl ⟨n', j', key', _, h_n, h_e⟩
    | polled n' found join =>
      simp only [Event.written?] at h_content
      cases h_message : found.slotMessage? <;> simp [h_message] at h_content
    | _ => simp [Event.writes] at h_writes

namespace State

variable {s s' t s₀ : State C} {f : Flush C} {es fs : List (Event C)}

/-- When the wait of a flush expires, one of its compile jobs has been scheduled and has not
reported. -/
theorem unreported_of_expired {threads : Nat} {now : Moment} {ms : List (Move C)}
    {es : List (Stamped C)} (h_run : run cfg env (start threads now) ms = some (t, es)) {n : Nat}
    {waited : Span} {join : Join} (h_polled : Event.polled n (.expired waited) join ∈ history es) :
    ∃ past later j key, history es = past ++ .polled n (.expired waited) join :: later ∧
      Event.scheduled n j key ∈ past ∧ ∀ outcome, Event.jobReported n j outcome ∉ past := by
  refine history_induction (P := fun _ _ es => Event.polled n (.expired waited) join ∈ es →
    ∃ past later j key, es = past ++ .polled n (.expired waited) join :: later ∧
      Event.scheduled n j key ∈ past ∧ ∀ outcome, Event.jobReported n j outcome ∉ past)
    (by simp) ?_ h_run h_polled
  intro ms m t es u fs h_run _ h_before h_step h_polled
  by_cases h_old : Event.polled n (.expired waited) join ∈ history es
  · obtain ⟨past, later, j, key, h_es, h_scheduled, h_none⟩ := h_before h_old
    exact ⟨past, later ++ fs, j, key, by simp [h_es], h_scheduled, h_none⟩
  · obtain ⟨f, _, h_f, rfl, -, -, h_poll, -, rfl⟩ :=
      h_step.of_polled ((List.mem_append.1 h_polled).resolve_left h_old)
    -- The deadline is looked at only while there is a job that can report.
    have h_reporter : t.hasReporter f.number = true := by
      rcases poll_cases h_poll with ⟨_, h_found, -⟩ | ⟨-, -, -, -, h_connected⟩ | ⟨h_found, -⟩
      · cases h_found
      · exact h_connected
      · cases h_found
    obtain ⟨job, h_job, h_flush⟩ := List.any_eq_true.1 h_reporter
    have h_flush : job.flush = f.number := by simpa using h_flush
    have h_filed := filed_of_run (rested_start threads now) h_run job.id
    refine ⟨history es, [], job.id, job.key, rfl, ?_, fun outcome => ?_⟩
    · exact h_flush ▸ jobs_scheduled_of_run h_run job h_job
    · exact h_filed.unreported_of_job (numbered_of_run h_run) h_job rfl

/-- What is said about the flush of a call is said in the call. -/
theorem mem_of_call {threads : Nat} {now : Moment} {ms₀ : List (Move C)} {es₀ es : List (Stamped C)}
    (h_before : run cfg env (start threads now) ms₀ = some (s₀, es₀)) {e : Event C}
    (h_flush : e.flush? = some (s₀.flushes + 1)) (h_e : e ∈ history (es₀ ++ es)) :
    e ∈ history es := by
  rw [history_append] at h_e
  have h_dated := (consistent_of_run (rested_start threads now) h_before).dated
  exact (List.mem_append.1 h_e).resolve_left fun h_old =>
    h_dated.ne h_old (Nat.lt_succ_self s₀.flushes) h_flush

/-- During a call every slot has an origin in the call. -/
theorem origin_of_call {threads : Nat} {now : Moment} {ms₀ ms : List (Move C)}
    {es₀ es : List (Stamped C)}
    (h_before : run cfg env (start threads now) ms₀ = some (s₀, es₀))
    (h_run : run cfg env s₀ (.flush :: ms) = some (s, es))
    (h_noCall : ∀ m ∈ ms, m.isCall = false) (h_f : s.current = some f)
    (h_stage : ¬ f.Requesting) (key : TaskId) :
    SlotOrigin (s₀.store.slot? key) key (history es) (s.store.slot? key) := by
  have h_layout := layout_of_run h_before
  have h_whole := run_append.2 ⟨s₀, es₀, es, h_before, h_run, rfl⟩
  have h_some := backlog_ne_nil_of_call h_layout h_run h_noCall h_f
  have h_idle : s₀.current = none := by
    obtain ⟨_, _, _, h_begins, -⟩ := run_cons.1 h_run
    obtain ⟨-, _, h_flush, -⟩ := step_eq_some_iff.1 h_begins
    cases h_flush with
    | returns h_idle => exact h_idle
    | begins h_idle => exact h_idle
  have h_calm := calm_of_requested h_whole h_f h_stage
  rw [history_append] at h_calm
  have h_ready := ready_when_idle_of_run h_before h_calm.of_append.1 h_idle
  have h_tracked := tracked_of_run h_some h_ready h_run
  exact h_tracked.slots f h_f (number_of_call h_layout h_run h_noCall h_f).1 key

/-- An expired wait in a history, with the job that has published its artifact by then. -/
theorem overtaken_of_split {past later : List (Event C)} {n j : Nat} {key : TaskId}
    {waited : Span} {join : Join} {artifact : Artifact C}
    (h_writer : writer? key (past ++ .polled n (.expired waited) join :: later) =
      some (.slotSettled n j key (.ready artifact) true))
    (h_none : ∀ outcome, Event.jobReported n j outcome ∉ past) :
    Overtaken n (past ++ .polled n (.expired waited) join :: later) := by
  refine ⟨past, waited, join, later, j, key, artifact, rfl, ?_, h_none⟩
  cases h_first : writer? key past with
  | some e =>
    rw [writer?_append_of_some h_first] at h_writer
    obtain rfl := Option.some.inj h_writer
    exact List.mem_of_find?_eq_some h_first
  | none =>
    -- Then the expired wait is the first to write to the slot, and it writes no artifact.
    rw [writer?_append_of_none h_first] at h_writer
    simp [writer?, Event.writes, Polled.slotMessage?] at h_writer

/-- If every compile job of a flush has put an artifact into its slot, then none of them reports a
failure. -/
theorem failure?_of_settled {threads : Nat} {now : Moment} {ms : List (Move C)}
    {es : List (Stamped C)} {n : Nat} (h_run : run cfg env (start threads now) ms = some (s, es))
    (h_settled : ∀ j key, Event.scheduled n j key ∈ history es →
      ∃ artifact, Event.slotSettled n j key (.ready artifact) true ∈ history es)
    {outcome : Outcome} (h_outcome : outcome ∈ reports n (history es)) :
    Join.failure? outcome = none := by
  obtain ⟨j, h_reported⟩ := mem_reports.1 h_outcome
  have h_filed := filed_of_run (rested_start threads now) h_run j
  obtain ⟨key, content, changed, h_e, h_good⟩ := h_filed.settled_of_reported h_reported
  obtain ⟨artifact, h_e'⟩ := h_settled j key (settled_scheduled_of_run h_run h_e)
  obtain ⟨-, -, rfl⟩ := h_filed.settled_once h_e h_e'
  cases outcome with
  | ok => rfl
  | error => simp [Slot.isReady, Event.isOk] at h_good

/-- If every task of a flush has its artifact and the flush has kept a failure of its wait, then a
job of another flush has settled a slot, or the wait has overtaken one of its own jobs. -/
theorem blamed_of_ready {threads : Nat} {now : Moment} {ms₀ ms : List (Move C)}
    {es₀ es : List (Stamped C)}
    (h_before : run cfg env (start threads now) ms₀ = some (s₀, es₀))
    (h_run : run cfg env s₀ (.flush :: ms) = some (s, es))
    (h_noCall : ∀ m ∈ ms, m.isCall = false) (h_f : s.current = some f)
    (h_stage : ¬ f.Requesting)
    (h_ready : ∀ key ∈ f.keys, ∃ artifact, s.store.slot? key = some (.ready artifact))
    (h_failures : f.join.failures ≠ []) :
    Stale f.number (history es) ∨ Overtaken f.number (history es) := by
  have h_rested : Rested (start (C := C) threads now) := rested_start threads now
  have h_whole := run_append.2 ⟨s₀, es₀, es, h_before, h_run, rfl⟩
  have h_consistent := consistent_of_run h_rested h_whole
  have h_number := (number_of_call (layout_of_run h_before) h_run h_noCall h_f).1
  have h_own (e : Event C) (h_flush : e.flush? = some f.number)
      (h_e : e ∈ history (es₀ ++ es)) : e ∈ history es :=
    mem_of_call h_before (h_number ▸ h_flush) h_e
  by_cases h_stale : Stale f.number (history es)
  · exact .inl h_stale
  refine .inr ?_
  have h_published (j : Nat) (key : TaskId)
      (h_scheduled : Event.scheduled f.number j key ∈ history (es₀ ++ es)) :
      ∃ artifact, writer? key (history es) =
        some (.slotSettled f.number j key (.ready artifact) true) := by
    have h_key := requested_of_run h_rested h_whole f h_f j key h_scheduled
    obtain ⟨artifact, h_slot⟩ := h_ready key h_key
    have h_origin := origin_of_call h_before h_run h_noCall h_f h_stage key
    rw [h_slot] at h_origin
    refine ⟨artifact, (h_origin.published_or_stale (h_own _ rfl h_scheduled) ?_).resolve_left
      h_stale⟩
    intro j' c h_settled
    have h_settled' : Event.slotSettled f.number j' key c true ∈ history (es₀ ++ es) := by
      rw [history_append]
      exact List.mem_append_right _ h_settled
    exact h_own _ rfl (settled_scheduled_of_run h_whole h_settled')
  have h_settled (j : Nat) (key : TaskId)
      (h_scheduled : Event.scheduled f.number j key ∈ history (es₀ ++ es)) :
      ∃ artifact, Event.slotSettled f.number j key (.ready artifact) true ∈
        history (es₀ ++ es) := by
    obtain ⟨artifact, h_writer⟩ := h_published j key h_scheduled
    rw [history_append]
    exact ⟨artifact, List.mem_append_right _ (List.mem_of_find?_eq_some h_writer)⟩
  obtain ⟨taken, own, h_reports, -, h_all, h_givenUp⟩ := (h_consistent.joined f h_f).received
  have h_taken : taken.filterMap Join.failure? = [] := by
    refine List.filterMap_eq_nil_iff.2 fun outcome h_outcome => ?_
    refine failure?_of_settled h_whole h_settled ?_
    rw [h_reports]
    exact List.mem_append_left _ h_outcome
  rw [h_all, h_taken, List.nil_append] at h_failures
  cases h_givenUp with
  | waits => exact absurd rfl h_failures
  | @expired waited h_over h_polled =>
    obtain ⟨past, later, j, key, h_split, h_scheduled, h_none⟩ :=
      unreported_of_expired h_whole h_polled
    obtain ⟨artifact, h_writer⟩ := h_published j key (by simp [h_split, h_scheduled])
    rw [history_append] at h_split
    rcases List.append_eq_append_iff.1 h_split with ⟨past', rfl, h_es⟩ | ⟨_, h_es₀, -⟩
    · rw [h_es] at h_writer ⊢
      exact overtaken_of_split h_writer fun outcome h_e =>
        h_none outcome (List.mem_append_right _ h_e)
    · have h_dated := (consistent_of_run h_rested h_before).dated
      have h_le := h_dated _ (h_es₀ ▸ List.mem_append_left _ h_scheduled) _ rfl
      omega
  | orphaned h_over h_polled =>
    -- A lost job has settled nothing, and this one has put an artifact into its slot.
    obtain ⟨j, worker, h_lost⟩ := lost_of_orphaned_of_run h_whole h_polled
    obtain ⟨key, h_scheduled⟩ := lost_scheduled_of_run h_whole h_lost
    obtain ⟨artifact, h_e⟩ := h_settled j key h_scheduled
    exact absurd h_e ((filed_of_run h_rested h_whole j).unsettled_of_lost h_lost)

/-! ## The count of a failed flush -/

/-- What a failed flush says about its records: it counts those that have neither run to a good end
nor lost their launch job, and if it counts none, its compile jobs are to blame. -/
structure Shortfall (n total failed : Nat) (es : List (Event C)) : Prop where
  places : (completions (invocations n es)).Sublist (List.range total)
  counted : failed + (completions (invocations n es)).length +
    (lostPlaces (verdicts n es)).length = total
  blamed : failed = 0 → (∀ seq, Event.launchJobLost n seq ∈ es →
    ∃ r artifact cause, Event.ran n seq r artifact (.lost cause) ∈ es) →
      Stale n es ∨ Overtaken n es

/-- What happens after the flush does not change what it has said. -/
theorem Shortfall.append_left {n total failed : Nat} (h : Shortfall n total failed es)
    (h_quiet : ∀ e ∈ fs, e.isLaunch = false) : Shortfall n total failed (es ++ fs) where
  places := by
    rw [invocations_append, invocations_of_quiet n h_quiet, List.append_nil]
    exact h.places
  counted := by
    rw [invocations_append, invocations_of_quiet n h_quiet, verdicts_append,
      verdicts_of_quiet n h_quiet, List.append_nil, List.append_nil]
    exact h.counted
  blamed h_zero h_lost := by
    have h_blamed := h.blamed h_zero fun seq h_e => by
      obtain ⟨r, artifact, cause, h_ran⟩ := h_lost seq (List.mem_append_left _ h_e)
      rcases List.mem_append.1 h_ran with h_old | h_new
      · exact ⟨r, artifact, cause, h_old⟩
      · exact absurd (h_quiet _ h_new) (by simp [Event.isLaunch])
    exact h_blamed.imp (·.append_left fs) (·.append_left fs)

/-- All that is said about the launch jobs of a call is said in the call. -/
theorem launches_of_call {threads : Nat} {now : Moment} {ms₀ : List (Move C)}
    {es₀ : List (Stamped C)} (es : List (Stamped C))
    (h_before : run cfg env (start threads now) ms₀ = some (s₀, es₀)) :
    verdicts (s₀.flushes + 1) (history (es₀ ++ es)) = verdicts (s₀.flushes + 1) (history es) ∧
      invocations (s₀.flushes + 1) (history (es₀ ++ es)) =
        invocations (s₀.flushes + 1) (history es) := by
  have h_verdicts : verdicts (s₀.flushes + 1) (history es₀) = [] :=
    (recorded_of_run h_before).future _ (Nat.lt_succ_self s₀.flushes)
  have h_places := (paired_of_run h_before).places (s₀.flushes + 1)
  rw [h_verdicts, List.map_nil, List.sublist_nil, List.map_eq_nil_iff] at h_places
  rw [history_append, verdicts_append, invocations_append, h_verdicts, h_places]
  exact ⟨rfl, rfl⟩

/-- If no launch job has failed, and each lost one has run its artifact, then every task has its
artifact. -/
theorem ready_of_all_ran {threads : Nat} {now : Moment} {ms : List (Move C)}
    {es : List (Stamped C)} (h_run : run cfg env (start threads now) ms = some (s, es))
    (h_f : s.current = some f) (h_stage : f.stage = .draining) (h_lane : s.lane = [])
    (h_none : recordFailures f = [])
    (h_lost : ∀ seq, Event.launchJobLost f.number seq ∈ history es →
      ∃ r artifact cause, Event.ran f.number seq r artifact (.lost cause) ∈ history es) :
    ∀ key ∈ f.keys, ∃ artifact, s.store.slot? key = some (.ready artifact) := by
  intro key h_key
  have h_layout := (layout_of_run h_run).inFlush f h_f
  have h_recorded := recorded_of_run h_run
  have h_stage' := h_layout.stage
  simp only [StageLayout, h_stage] at h_stage'
  rw [h_stage'.1] at h_key
  obtain ⟨r, h_r, rfl⟩ := List.mem_map.1 h_key
  obtain ⟨seq, h_seq⟩ := List.mem_iff_getElem?.1 h_r
  -- The launch job of the record has come to its end.
  have h_done : s.done f = f.batch.length := by simp [done, h_lane, h_stage'.2]
  have h_place : seq ∈ (verdicts f.number (history es)).map Prod.fst := by
    rw [h_recorded.places f h_f, h_done, List.mem_range]
    exact (List.getElem?_eq_some_iff.1 h_seq).1
  obtain ⟨⟨seq', outcome⟩, h_verdict, h_same⟩ := List.mem_map.1 h_place
  obtain rfl : seq' = seq := h_same
  have h_ran : ∃ r artifact result, Event.ran f.number seq' r artifact result ∈ history es := by
    rcases outcome with _ | failure | _
    · obtain ⟨e, h_e, h_eq⟩ := List.mem_filterMap.1 h_verdict
      obtain rfl := Event.lost_of_verdict? h_eq
      obtain ⟨r, artifact, cause, h_ran⟩ := h_lost seq' h_e
      exact ⟨r, artifact, .lost cause, h_ran⟩
    · have h_failure : failure ∈ recordFailures f := by
        refine List.mem_filterMap.2 ⟨(seq', .error failure), ?_, rfl⟩
        rw [h_recorded.posted f h_f]
        exact List.mem_filterMap.2 ⟨_, h_verdict, rfl⟩
      simp [h_none] at h_failure
    · refine ran_of_mem_completions ?_
      rw [(paired_of_run h_run).good]
      exact List.mem_filterMap.2 ⟨_, h_verdict, rfl⟩
  obtain ⟨r', artifact, result, h_ran⟩ := h_ran
  obtain ⟨h_at, h_slot⟩ :=
    (supplied_of_run (rested_start threads now) h_run).ran f h_f seq' r' artifact result h_ran
  obtain rfl := Option.some.inj (h_seq.symm.trans h_at)
  exact ⟨artifact, h_slot⟩

/-- If a flush has kept a failure of its wait though no launch job has failed, and each lost one has
run its artifact, then a job of another flush has settled a slot, or the wait has overtaken one of
its own jobs. -/
theorem blamed_of_all_ran {threads : Nat} {now : Moment} {ms₀ ms : List (Move C)}
    {es₀ es : List (Stamped C)}
    (h_before : run cfg env (start threads now) ms₀ = some (s₀, es₀))
    (h_run : run cfg env s₀ (.flush :: ms) = some (s, es))
    (h_noCall : ∀ m ∈ ms, m.isCall = false) (h_f : s.current = some f)
    (h_stage : f.stage = .draining) (h_lane : s.lane = []) (h_none : recordFailures f = [])
    (h_failures : f.join.failures ≠ [])
    (h_lost : ∀ seq, Event.launchJobLost f.number seq ∈ history es →
      ∃ r artifact cause, Event.ran f.number seq r artifact (.lost cause) ∈ history es) :
    Stale f.number (history es) ∨ Overtaken f.number (history es) := by
  have h_whole := run_append.2 ⟨s₀, es₀, es, h_before, h_run, rfl⟩
  have h_number := (number_of_call (layout_of_run h_before) h_run h_noCall h_f).1
  have h_later : ¬ f.Requesting := by
    rintro ⟨rest, h_requesting⟩
    simp [h_stage] at h_requesting
  refine blamed_of_ready h_before h_run h_noCall h_f h_later ?_ h_failures
  refine ready_of_all_ran h_whole h_f h_stage h_lane h_none fun seq h_e => ?_
  rw [history_append] at h_e ⊢
  rcases List.mem_append.1 h_e with h_old | h_new
  · have h_verdict : (seq, none) ∈ verdicts f.number (history es₀) :=
      List.mem_filterMap.2 ⟨_, h_old, by simp [Event.verdict?]⟩
    rw [h_number, (recorded_of_run h_before).future _ (Nat.lt_succ_self _)] at h_verdict
    cases h_verdict
  · obtain ⟨r, artifact, cause, h_ran⟩ := h_lost seq h_new
    exact ⟨r, artifact, cause, List.mem_append_right _ h_ran⟩

/-- A flush whose launch jobs are done fails with the number of those that have failed. -/
theorem shortfall_of_fails {threads : Nat} {now : Moment} {ms₀ ms : List (Move C)}
    {es₀ es : List (Stamped C)} {failed total : Nat} {first : Failure}
    (h_before : run cfg env (start threads now) ms₀ = some (s₀, es₀))
    (h_run : run cfg env s₀ (.flush :: ms) = some (s, es))
    (h_noCall : ∀ m ∈ ms, m.isCall = false) (h_f : s.current = some f)
    (h_stage : f.stage = .draining) (h_lane : s.lane = [])
    (h_result : result f = .error (.unfinished failed total first)) :
    total = s₀.backlog.length ∧ Shortfall (s₀.flushes + 1) total failed (history es) := by
  have h_whole := run_append.2 ⟨s₀, es₀, es, h_before, h_run, rfl⟩
  have h_layout := (layout_of_run h_whole).inFlush f h_f
  have h_recorded := recorded_of_run h_whole
  obtain ⟨h_number, h_batch⟩ := number_of_call (layout_of_run h_before) h_run h_noCall h_f
  obtain ⟨h_verdicts, h_invocations⟩ := launches_of_call es h_before
  -- The result names the failures of the launch jobs, and there is one failure at least.
  have h_all : f.join.failures ++ recordFailures f ≠ [] ∧
      failed = (recordFailures f).length ∧ total = f.report.records := by
    cases h_first : f.join.failures ++ recordFailures f with
    | nil => simp [result, h_first] at h_result
    | cons first rest =>
      simp only [result, h_first, Except.error.injEq, Failure.unfinished.injEq] at h_result
      exact ⟨List.cons_ne_nil _ _, h_result.1.symm, h_result.2.1.symm⟩
  obtain ⟨h_failures, h_failed, h_total⟩ := h_all
  rw [h_layout.report.2, h_batch] at h_total
  -- Every launch job has come to its end, so there is one verdict for each record.
  have h_places : (verdicts (s₀.flushes + 1) (history es)).map Prod.fst = List.range total := by
    have h_stage' := h_layout.stage
    simp only [StageLayout, h_stage] at h_stage'
    have h_done : s.done f = total := by simp [done, h_lane, h_stage'.2, h_batch, h_total]
    rw [← h_verdicts, ← h_number, h_recorded.places f h_f, h_done]
  have h_good := (paired_of_run h_whole).good (s₀.flushes + 1)
  rw [h_invocations, h_verdicts] at h_good
  refine ⟨h_total, ?_, ?_, ?_⟩
  · rw [h_good, ← h_places]
    exact successes_sublist _
  · have h_length := congrArg List.length h_places
    rw [List.length_map, List.length_range] at h_length
    have h_posted : recordFailures f =
        failures (outcomes (verdicts (s₀.flushes + 1) (history es))) := by
      have h_outcomes := h_recorded.posted f h_f
      rw [h_number, h_verdicts] at h_outcomes
      rw [← h_outcomes]
      rfl
    have h_sum := length_verdicts (verdicts (s₀.flushes + 1) (history es))
    rw [h_good, h_failed, h_posted]
    omega
  · intro h_zero h_lost
    have h_none : recordFailures f = [] := List.length_eq_zero_iff.1 (h_failed.symm.trans h_zero)
    rw [h_none, List.append_nil] at h_failures
    rw [← h_number] at h_lost ⊢
    exact blamed_of_all_ran h_before h_run h_noCall h_f h_stage h_lane h_none h_failures h_lost

/-- An abandoned flush has run nothing and counts all its records. -/
theorem shortfall_of_abandons {threads : Nat} {now : Moment} {ms₀ ms : List (Move C)}
    {es₀ es : List (Stamped C)}
    (h_before : run cfg env (start threads now) ms₀ = some (s₀, es₀))
    (h_run : run cfg env s₀ (.flush :: ms) = some (s, es))
    (h_noCall : ∀ m ∈ ms, m.isCall = false) (h_f : s.current = some f)
    (h_stage : f.stage = .joining) (h_pipelined : cfg.pipelined = false) :
    f.report.records = s₀.backlog.length ∧
      Shortfall (s₀.flushes + 1) f.report.records f.report.records (history es) := by
  have h_whole := run_append.2 ⟨s₀, es₀, es, h_before, h_run, rfl⟩
  have h_layout := (layout_of_run h_whole).inFlush f h_f
  obtain ⟨h_number, h_batch⟩ := number_of_call (layout_of_run h_before) h_run h_noCall h_f
  obtain ⟨h_verdicts, h_invocations⟩ := launches_of_call es h_before
  have h_records : f.report.records = s₀.backlog.length := by
    rw [h_layout.report.2, h_batch]
  have h_stage' := h_layout.stage
  simp only [StageLayout, h_stage, h_pipelined, Bool.false_eq_true, if_false] at h_stage'
  -- No launch job has been submitted.
  have h_done : s.done f = 0 := by simp [done, h_stage'.2.2]
  have h_places := (recorded_of_run h_whole).places f h_f
  rw [h_done, h_number, h_verdicts, List.range_zero, List.map_eq_nil_iff] at h_places
  have h_runs := (paired_of_run h_whole).places (s₀.flushes + 1)
  rw [h_verdicts, h_invocations, h_places, List.map_nil, List.sublist_nil,
    List.map_eq_nil_iff] at h_runs
  refine ⟨h_records, ?_, ?_, fun h_zero => ?_⟩
  · rw [h_runs]
    exact List.nil_sublist _
  · rw [h_runs, h_places]
    rfl
  · have h_some := backlog_ne_nil_of_call (layout_of_run h_before) h_run h_noCall h_f
    rw [h_records] at h_zero
    exact absurd (List.length_eq_zero_iff.1 h_zero) h_some

theorem shortfall_of_run {threads : Nat} {now : Moment} {ms₀ ms : List (Move C)}
    {es₀ es : List (Stamped C)} {failed total : Nat} {first : Failure}
    (h_before : run cfg env (start threads now) ms₀ = some (s₀, es₀))
    (h_run : run cfg env s₀ (.flush :: ms) = some (t, es))
    (h_noCall : ∀ m ∈ ms, m.isCall = false)
    (h_error : Event.returned (.error (.unfinished failed total first)) ∈ history es) :
    total = s₀.backlog.length ∧ Shortfall (s₀.flushes + 1) total failed (history es) := by
  refine flush_induction (P := fun _ _ es =>
    Event.returned (.error (.unfinished failed total first)) ∈ history es →
      total = s₀.backlog.length ∧ Shortfall (s₀.flushes + 1) total failed (history es))
    h_run h_noCall ?_ ?_ h_error
  · intro u fs h_flush h_error
    rw [history_stamp] at h_error
    cases h_flush <;> simp at h_error
  · intro ms m t es u fs h_prefix h_past _ _ h_holds h_step h_error
    rw [history_append, history_stamp] at h_error ⊢
    rcases List.mem_append.1 h_error with h_old | h_new
    · -- The call has returned, so nothing of it runs any more.
      obtain ⟨h_total, h_shortfall⟩ := h_holds h_old
      refine ⟨h_total, h_shortfall.append_left ?_⟩
      have h_layout := layout_of_run (run_append.2 ⟨s₀, es₀, es, h_before, h_prefix, rfl⟩)
      cases called_of_run (layout_of_run h_before) h_prefix h_past with
      | goesOn _ _ _ h_answers =>
        have h_answer := mem_answers.2 ⟨h_old, rfl⟩
        simp [h_answers] at h_answer
      | ends h_idle => exact h_step.quiet_of_idle h_layout h_idle
    · cases h_step with
      | caller h_f h_step =>
        cases h_step with
        | abandons h_stage _ h_pipelined =>
          simp only [List.mem_cons, reduceCtorEq, List.not_mem_nil, or_false, false_or, endedEvent,
            Event.returned.injEq, Except.error.injEq, Failure.unfinished.injEq] at h_new
          obtain ⟨rfl, rfl, -⟩ := h_new
          obtain ⟨h_total, h_shortfall⟩ :=
            shortfall_of_abandons h_before h_prefix h_past h_f h_stage h_pipelined
          exact ⟨h_total, h_shortfall.append_left (by simp [Event.isLaunch, endedEvent])⟩
        | fails h_stage h_lane h_result =>
          simp only [List.mem_cons, reduceCtorEq, List.not_mem_nil, or_false, false_or, endedEvent,
            Event.returned.injEq, Except.error.injEq] at h_new
          obtain rfl := h_new
          obtain ⟨h_total, h_shortfall⟩ :=
            shortfall_of_fails h_before h_prefix h_past h_f h_stage h_lane h_result
          exact ⟨h_total, h_shortfall.append_left (by simp [Event.isLaunch, endedEvent])⟩
        | schedules | shares | reuses => simp at h_new
        | _ => simp [joinedEvent, endedEvent] at h_new
      | worker _ _ h_step => cases h_step <;> simp at h_new
      | launcher _ h_step => cases h_step <;> simp at h_new
      | _ => simp at h_new

/-- A launch job of a call that can name the kernel of its record is lost only if its artifact
panics in a way that it cannot report, or if the clock cannot represent the end of its wait. -/
theorem ran_of_lost {threads : Nat} {now : Moment} {ms₀ ms : List (Move C)}
    {es₀ es : List (Stamped C)} {seq : Nat}
    (h_before : run cfg env (start threads now) ms₀ = some (s₀, es₀))
    (h_run : run cfg env s₀ (.flush :: ms) = some (t, es))
    (h_clock : cfg.dispatchPatience.deadline? t.now ≠ none)
    (h_names : NamesKernels env (s₀.flushes + 1) (history es))
    (h_e : Event.launchJobLost (s₀.flushes + 1) seq ∈ history es) :
    ∃ r artifact cause, Event.ran (s₀.flushes + 1) seq r artifact (.lost cause) ∈ history es := by
  have h_whole := run_append.2 ⟨s₀, es₀, es, h_before, h_run, rfl⟩
  obtain ⟨⟨moment, e⟩, h_stamped, rfl⟩ := List.mem_map.1 h_e
  have h_later := List.mem_append_right es₀ h_stamped
  rcases lost_cause_of_run h_whole h_later with h_none | h_mute | ⟨r, artifact, cause, h_ran⟩
  · exact absurd (deadline?_eq_none_of_le h_none (moment_le_of_run h_whole _ h_later)) h_clock
  · simp [h_names seq h_e] at h_mute
  · exact ⟨r, artifact, cause, mem_of_call h_before rfl (List.mem_map_of_mem h_ran)⟩

/-- A flush that fails names the number of its records and counts those that have failed: all but
the records that have run to a good end and those whose launch job is lost. If the clock can
represent the ends of all waits and launch jobs can name the kernels of their records, then one is
lost only if its artifact panics in a way that it cannot report; and the flush counts one record at
least, unless a compile job of another flush has settled a slot or the flush has given up on a job
that had published its artifact. -/
theorem failed_flush_counts {threads : Nat} {now : Moment} {ms₀ ms : List (Move C)}
    {es₀ es : List (Stamped C)} {failed total : Nat} {first : Failure}
    (h_before : run cfg env (start threads now) ms₀ = some (s₀, es₀))
    (h_run : run cfg env s₀ (.flush :: ms) = some (t, es))
    (h_noCall : ∀ m ∈ ms, m.isCall = false)
    (h_error : Event.returned (.error (.unfinished failed total first)) ∈ history es) :
    total = s₀.backlog.length ∧
    (completions (invocations (s₀.flushes + 1) (history es))).Sublist (List.range total) ∧
    failed + (completions (invocations (s₀.flushes + 1) (history es))).length +
      (lostPlaces (verdicts (s₀.flushes + 1) (history es))).length = total ∧
    (cfg.dispatchPatience.deadline? t.now ≠ none →
      NamesKernels env (s₀.flushes + 1) (history es) →
      (∀ seq cause, (seq, .lost cause) ∉ invocations (s₀.flushes + 1) (history es)) →
      failed + (completions (invocations (s₀.flushes + 1) (history es))).length = total) ∧
    (cfg.dispatchPatience.deadline? t.now ≠ none →
      NamesKernels env (s₀.flushes + 1) (history es) →
      ¬ Stale (s₀.flushes + 1) (history es) → ¬ Overtaken (s₀.flushes + 1) (history es) →
      1 ≤ failed) := by
  obtain ⟨h_total, h_places, h_counted, h_blamed⟩ :=
    shortfall_of_run h_before h_run h_noCall h_error
  refine ⟨h_total, h_places, h_counted, ?_, ?_⟩
  · intro h_clock h_names h_reported
    have h_none : lostPlaces (verdicts (s₀.flushes + 1) (history es)) = [] := by
      refine List.filterMap_eq_nil_iff.2 ?_
      rintro ⟨seq, outcome⟩ h_verdict
      cases outcome with
      | some outcome => rfl
      | none =>
        obtain ⟨e, h_e, h_eq⟩ := List.mem_filterMap.1 h_verdict
        obtain rfl := Event.lost_of_verdict? h_eq
        obtain ⟨r, artifact, cause, h_ran⟩ := ran_of_lost h_before h_run h_clock h_names h_e
        refine absurd ?_ (h_reported seq cause)
        exact List.mem_filterMap.2 ⟨_, h_ran, by simp [Event.invocation?]⟩
    rw [h_none, List.length_nil] at h_counted
    omega
  · intro h_clock h_names h_stale h_overtaken
    by_contra h_zero
    have h_blame := h_blamed (by omega) fun seq => ran_of_lost h_before h_run h_clock h_names
    rcases h_blame with h_blame | h_blame
    · exact h_stale h_blame
    · exact h_overtaken h_blame

/-- The moves of a flush of two records after its call: both compile jobs come to their end, then
both launch jobs. -/
def bothCompiled : List (Move Nat) :=
  [List.replicate 3 .caller,
    [.pick (.takeShared 0 0)], List.replicate 4 (.worker 0),
    [.pick (.takeShared 0 0)], List.replicate 4 (.worker 0),
    List.replicate 6 .caller, List.replicate 5 .launcher, [.caller]].flatten

/-- The failure of the task `b`, which does not compile. -/
def noB : Failure :=
  .compilation "k" (TaskId.ofText "b").headline (TaskId.ofText "b").digest "unsupported"

theorem one_of_two_failed :
    ∃ s₀ es₀ t es,
      run {} counting (start 1 0) [.enqueue ⟨0, "k", "a"⟩, .enqueue ⟨1, "k", "b"⟩] =
        some (s₀, es₀) ∧
      run {} counting s₀ (.flush :: bothCompiled) = some (t, es) ∧
      Event.returned (.error (.unfinished 1 2 noB)) ∈ history es ∧ 2 = s₀.backlog.length ∧
      1 + (completions (invocations (s₀.flushes + 1) (history es))).length = 2 := by
  have h_summary : ((run {} counting (start 1 0)
      [.enqueue ⟨0, "k", "a"⟩, .enqueue ⟨1, "k", "b"⟩]).bind fun r₀ =>
        (run {} counting r₀.1 (.flush :: bothCompiled)).map fun r =>
          (r.1.now, answers (history r.2), invocations (r₀.1.flushes + 1) (history r.2))) =
      some (0, [.returned (.error (.unfinished 1 2 noB))], [(0, .completed 1)]) := rfl
  obtain ⟨⟨s₀, es₀⟩, h_before, h_later⟩ := Option.bind_eq_some_iff.1 h_summary
  obtain ⟨⟨t, es⟩, h_run, h_eq⟩ := Option.map_eq_some_iff.1 h_later
  simp only [Prod.mk.injEq] at h_eq
  obtain ⟨h_now, h_answers, h_ran⟩ := h_eq
  have h_error : Event.returned (.error (.unfinished 1 2 noB)) ∈ history es :=
    (mem_answers.1 (h_answers ▸ List.mem_singleton_self _)).1
  obtain ⟨h_total, -, -, h_counted, -⟩ :=
    failed_flush_counts h_before h_run (by decide) h_error
  refine ⟨s₀, es₀, t, es, h_before, h_run, h_error, h_total, h_counted ?_ (fun _ _ => rfl) ?_⟩
  · rw [h_now]
    decide
  · simp [h_ran]

/-- The moves of a flush of one record after its call: the deadline of its wait passes when its
compile job has settled its slot and not reported. -/
def outpaced : List (Move Nat) :=
  [List.replicate 2 .caller, [.pick (.takeShared 0 0)], List.replicate 3 (.worker 0),
    [.tick 1], List.replicate 4 .caller, List.replicate 3 .launcher, [.caller]].flatten

/-- Tasks compile but for `b`, and every artifact panics in a way that its job cannot report. -/
def dying : Environment Nat where
  codegen _ call :=
    if call.task = "b" then .failed (.other "unsupported")
    else .code fun _ _ => .lost (.saying "dying")

/-- With valid settings and a clock that can represent all deadlines, a flush fails whose only
record has run to a good end, and it counts no failed record. A flush whose two records have both
not run to a good end counts one of them. -/
theorem miscounts_its_records :
    impatient.Valid ∧
      (∃ t es, run impatient adding (start 1 0) (.enqueue ⟨0, "k", "a"⟩ :: .flush :: outpaced) =
          some (t, es) ∧
        impatient.compilePatience.deadline? t.now ≠ none ∧
        impatient.dispatchPatience.deadline? t.now ≠ none ∧
        answers (history es) =
          [.returned (.error (.unfinished 0 1 (.compileOverdue 1 (.ofNanos 1))))] ∧
        completions (invocations 1 (history es)) = [0]) ∧
      ∃ t es, run {} dying (start 1 0)
          (.enqueue ⟨0, "k", "a"⟩ :: .enqueue ⟨1, "k", "b"⟩ :: .flush :: bothCompiled) =
          some (t, es) ∧
        answers (history es) = [.returned (.error (.unfinished 1 2 noB))] ∧
        completions (invocations 1 (history es)) = [] := by
  have h_gap : (run impatient adding (start 1 0)
      (.enqueue ⟨0, "k", "a"⟩ :: .flush :: outpaced)).map (fun r =>
        (r.1.now, answers (history r.2), completions (invocations 1 (history r.2)))) =
      some (1, [.returned (.error (.unfinished 0 1 (.compileOverdue 1 (.ofNanos 1))))], [0]) := rfl
  have h_loss : (run {} dying (start 1 0)
      (.enqueue ⟨0, "k", "a"⟩ :: .enqueue ⟨1, "k", "b"⟩ :: .flush :: bothCompiled)).map (fun r =>
        (answers (history r.2), completions (invocations 1 (history r.2)))) =
      some ([.returned (.error (.unfinished 1 2 noB))], []) := rfl
  obtain ⟨⟨t, es⟩, h_run, h_eq⟩ := Option.map_eq_some_iff.1 h_gap
  obtain ⟨⟨t', es'⟩, h_run', h_eq'⟩ := Option.map_eq_some_iff.1 h_loss
  simp only [Prod.mk.injEq] at h_eq h_eq'
  obtain ⟨h_now, h_answers, h_completed⟩ := h_eq
  obtain ⟨h_answers', h_completed'⟩ := h_eq'
  refine ⟨by decide, ⟨t, es, h_run, ?_, ?_, h_answers, h_completed⟩, t', es', h_run', h_answers',
    h_completed'⟩
  · rw [h_now]
    decide
  · rw [h_now]
    decide

end State

end KernelDispatch
