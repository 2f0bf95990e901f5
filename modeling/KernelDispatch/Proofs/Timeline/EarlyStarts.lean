/-
  KernelDispatch.Proofs.Timeline.EarlyStarts

  What the audit of a timeline reports are false alarms.

  A record starts only with an artifact in its slot, and a compile job of its own flush puts
  one there after its code generator has ended well. So a record that looks early has its
  artifact from elsewhere (`FalseAlarm`): the flush reuses it, and what it compiles is
  another task with the same digest; or a compile job of an earlier flush, which has given up
  on it, has settled the slot (`falseAlarm_of_looksEarly`). The first takes no passed deadline
  (`reports_reused_record`). Without either, the audit reports nothing
  (`early_starts_are_false_alarms`).
-/
import KernelDispatch.Proofs.Flush.Builds
import KernelDispatch.Proofs.Flush.Counts
import KernelDispatch.Proofs.Flush.InFlight
import KernelDispatch.Proofs.Flush.Shortfall
import KernelDispatch.Proofs.Timeline.Runs

namespace KernelDispatch

variable {C : Type} {cfg : Settings} {env : Environment C}

/-- Why a record of flush `n` looks early although it has its artifact; `past` is what has happened
before its start, and `during` the part of it since the flush began. -/
inductive FalseAlarm (n : Nat) (key : TaskId) (past during : List (Event C)) : Prop where
  /-- Its task reuses an artifact of an earlier flush, and another task with the same digest is
  compiled. -/
  | clash {worker : Nat} {k : TaskId} {call : CodegenCall}
      (h_reused : .reused n key ∈ during) (h_called : .codegenCalled n worker k call ∈ during)
      (h_clash : k.clashesWith key = true)
  /-- Its task is scheduled, and a compile job that has outlived its own flush has put an artifact
  into the slot. -/
  | stale {j n' j' : Nat} {artifact : Artifact C} (h_scheduled : .scheduled n j key ∈ during)
      (h_earlier : n' < n) (h_late : Late n' past)
      (h_settled : .slotSettled n' j' key (.ready artifact) true ∈ during)

/-- The beginning of the flush is no part of a false alarm. -/
theorem FalseAlarm.of_began {n : Nat} {key : TaskId} {past during : List (Event C)}
    {batch : List (Record C)} (h : FalseAlarm n key past (.began n batch :: during)) :
    FalseAlarm n key past during := by
  have h_since {e : Event C} (h_e : e ∈ Event.began n batch :: during)
      (h_new : e ≠ .began n batch) : e ∈ during :=
    (List.mem_cons.1 h_e).resolve_left h_new
  cases h with
  | clash h_reused h_called h_clash =>
    exact .clash (h_since h_reused (by simp)) (h_since h_called (by simp)) h_clash
  | stale h_scheduled h_earlier h_late h_settled =>
    exact .stale (h_since h_scheduled (by simp)) h_earlier h_late (h_since h_settled (by simp))

namespace State

variable {s₀ s t : State C} {f : Flush C} {ms₀ ms : List (Move C)} {es₀ es : List (Stamped C)}
  {threads : Nat} {now : Moment}

/-! ## During the flush -/

/-- A call of a flush of some records says first that this begins. -/
theorem ReadyCall.began (h : ReadyCall cfg env s₀ ms t es) (h_f : t.current = some f) :
    ∃ during, history es = .began f.number s₀.backlog :: during := by
  rw [(h.number h_f).1]
  refine h.inFlush_induction
    (P := fun _ es _ => ∃ during, history es = .began (s₀.flushes + 1) s₀.backlog :: during) h_f
    ⟨[], rfl⟩ ?_
  rintro ms m t es u fs f f' - - - - - ⟨during, h_es⟩ - -
  exact ⟨during ++ fs, by rw [history_append, history_stamp, h_es]; rfl⟩

/-- A compile job of another flush that settles a slot during a call comes from a flush that has
given up on it. -/
theorem ReadyCall.late_of_settled (h : ReadyCall cfg env s₀ ms t es)
    (h_before : run cfg env (start threads now) ms₀ = some (s₀, es₀)) (h_f : t.current = some f)
    (h_calm : Calm (history (es₀ ++ es))) {n j : Nat} {key : TaskId} {content : Slot (Artifact C)}
    {changed : Bool} (h_e : Event.slotSettled n j key content changed ∈ history es)
    (h_other : n ≠ f.number) : Late n (history (es₀ ++ es)) := by
  rw [(h.number h_f).1] at h_other
  refine h.inFlush_induction (P := fun _ es _ => Calm (history (es₀ ++ es)) →
    Event.slotSettled n j key content changed ∈ history es → Late n (history (es₀ ++ es)))
    h_f (by simp) ?_ h_calm h_e
  intro ms m t es u fs f f' h_call _ _ h_f _ h_before' h_step _ h_calm h_e
  rw [← List.append_assoc, history_append, history_stamp] at h_calm ⊢
  rw [history_append, history_stamp] at h_e
  refine Late.append_left ?_ fs
  rcases List.mem_append.1 h_e with h_old | h_new
  · exact h_before' h_calm.of_append.1 h_old
  · -- The job is unfinished until now, and the flush in progress is not its own.
    obtain ⟨job, h_job, -, -, rfl, -⟩ := h_step.of_settled h_new
    have h_whole := run_append.2 ⟨s₀, es₀, es, h_before, h_call.reached, rfl⟩
    rcases explained_of_run (rested_start threads now) h_whole job h_job with
      ⟨f₁, h_f₁, h_number⟩ | h_late | h_unwound
    · rw [(h_call.number h_f₁).1] at h_number
      exact absurd h_number.symm h_other
    · exact h_late
    · exact absurd h_calm.of_append.1 h_unwound

/-! ## Why a record looks early -/

/-- A task of the flush with an artifact from before looks early beside another task with its
digest. -/
theorem ReadyCall.clash_of_contains (h : ReadyCall cfg env s₀ ms t es)
    (h_before : run cfg env (start threads now) ms₀ = some (s₀, es₀)) (h_f : t.current = some f)
    {key : TaskId} (h_key : key ∈ f.keys) (h_contains : s₀.store.contains key = true)
    (h_jobs : jobsFor key (history es) = [])
    (h_early : LooksEarly f.number key (history (es₀ ++ es))) :
    FalseAlarm f.number key (history (es₀ ++ es)) (history es) := by
  have h_whole := run_append.2 ⟨s₀, es₀, es, h_before, h.reached, rfl⟩
  have h_mine {e : Event C} (h_e : e ∈ history (es₀ ++ es)) (h_of : e.flush? = some f.number) :
      e ∈ history es :=
    mem_of_call h_before ((h.number h_f).1 ▸ h_of) h_e
  have h_reused := h.reused_of_contains h_f (scheduler?_le_of_run h_before) h_key h_contains
  -- Nothing is compiled for the task, so what is compiled with its digest is another one.
  obtain ⟨worker, k, call, h_called, h_digest⟩ := h_early.called
  obtain ⟨j, h_scheduled⟩ := called_scheduled_of_run h_whole h_called
  have h_other : k ≠ key := by
    rintro rfl
    simpa [h_jobs] using mem_jobsFor (h_mine h_scheduled rfl)
  refine .clash h_reused (h_mine h_called rfl) ?_
  simpa [TaskId.clashesWith, h_digest, TaskId.eq_iff_text_eq] using h_other

/-- A scheduled task looks early after a compile job has given it an artifact if this is a late job
of an earlier flush. -/
theorem ReadyCall.stale_of_settled (h : ReadyCall cfg env s₀ ms t es)
    (h_before : run cfg env (start threads now) ms₀ = some (s₀, es₀)) (h_f : t.current = some f)
    (h_stage : ¬ f.Requesting) {key : TaskId} {n j j' : Nat} {artifact : Artifact C}
    (h_scheduled : j ∈ jobsFor key (history es))
    (h_e : Event.slotSettled n j' key (.ready artifact) true ∈ history es)
    (h_early : LooksEarly f.number key (history (es₀ ++ es))) :
    FalseAlarm f.number key (history (es₀ ++ es)) (history es) := by
  have h_whole := run_append.2 ⟨s₀, es₀, es, h_before, h.reached, rfl⟩
  have h_settled : Event.slotSettled n j' key (.ready artifact) true ∈ history (es₀ ++ es) := by
    rw [history_append]
    exact List.mem_append_right _ h_e
  -- A job of this flush would have told of a good end before.
  have h_other : n ≠ f.number := by
    rintro rfl
    obtain ⟨elapsed, h_ended⟩ := ended_of_published h_whole h_settled
    exact h_early.unbuilt _ _ _ h_ended rfl
  have h_begun : n ≤ t.flushes :=
    (consistent_of_run (rested_start threads now) h_whole).dated _ h_settled n rfl
  have h_earlier : n < f.number := by
    rw [← ((layout_of_run h_whole).inFlush f h_f).number] at h_begun
    omega
  have h_late := h.late_of_settled h_before h_f (calm_of_requested h_whole h_f h_stage) h_e h_other
  obtain ⟨n', h_own⟩ := scheduled_of_mem_jobsFor h_scheduled
  obtain rfl : n' = f.number := by
    rw [(h.number h_f).1]
    exact ((h.tracked h_f).own f h_f (h.number h_f).1).1 n' j _ h_own
  exact .stale h_own h_earlier h_late h_e

/-- A record that looks early has its artifact from an earlier flush, or from a compile job of
one. -/
theorem falseAlarm_of_looksEarly (h_run : run cfg env (start threads now) ms = some (t, es))
    {n seq : Nat} {key : TaskId} {past later : List (Event C)}
    (h_split : history es = past ++ .recordStarted n seq key :: later)
    (h_early : LooksEarly n key past) :
    ∃ before batch during, past = before ++ .began n batch :: during ∧
      FalseAlarm n key past during := by
  obtain ⟨past, rest, rfl, rfl, h_rest⟩ := List.map_eq_append_iff.1 h_split
  obtain ⟨⟨moment, e⟩, later, rfl, h_e, rfl⟩ := List.map_eq_cons_iff.1 h_rest
  obtain rfl : e = .recordStarted n seq key := h_e
  obtain ⟨ms₁, s, es₁, m, s', first, last, -, -, h_prefix, -, h_step, -, -, rfl, -⟩ :=
    split_of_run h_run
  obtain ⟨job, rest, artifact, h_lane, rfl, rfl, h_slot, h_one⟩ :=
    h_step.of_recordStarted (List.mem_append_right _ (List.mem_cons_self ..))
  obtain ⟨rfl, -⟩ := (List.append_eq_singleton_iff.1 h_one).resolve_right (by simp)
  change LooksEarly job.flush job.key (history (es₁ ++ [])) at h_early
  change ∃ before batch during, history (es₁ ++ []) = _ ∧ FalseAlarm _ _ (history (es₁ ++ [])) _
  rw [List.append_nil] at h_early ⊢
  -- The record belongs to the flush in progress, and this is past its requests.
  have h_layout := layout_of_run h_prefix
  obtain ⟨f, h_f⟩ := h_layout.exists_flush h_lane
  have h_flush := h_layout.inFlush f h_f
  have h_job : job ∈ s.lane := by simp [h_lane]
  have h_stage : ¬ f.Requesting := by
    rintro ⟨left, h_requesting⟩
    have h_place := h_flush.stage
    simp [StageLayout, h_requesting, h_lane] at h_place
  obtain ⟨ms₀, s₀, es₀, ms₁, es, h_before, h_call, rfl⟩ := readyCall_of_run h_prefix h_f h_stage
  obtain ⟨during, h_during⟩ := h_call.began h_f
  rw [(h_flush.own job h_job).1] at h_early ⊢
  suffices h_alarm : FalseAlarm f.number job.key (history (es₀ ++ es)) (history es) by
    rw [h_during] at h_alarm
    exact ⟨history es₀, s₀.backlog, during, by rw [history_append, h_during], h_alarm.of_began⟩
  -- What the alarm is about depends on where the slot has its artifact from.
  have h_origin := h_call.origin h_f job.key
  rw [h_slot] at h_origin
  cases h_origin with
  | kept h_kept h_jobs =>
    have h_contains : s₀.store.contains job.key = true := by
      rw [ArtifactStore.contains, h_kept]
      rfl
    exact h_call.clash_of_contains h_before h_f (h_flush.key_mem h_job) h_contains h_jobs h_early
  | @written j e _ h_absent h_jobs h_writer h_content =>
    have h_e : e ∈ history es := List.mem_of_find?_eq_some h_writer
    have h_writes : e.writes job.key = true := List.find?_some h_writer
    cases e with
    | slotSettled n j' k content changed =>
      simp only [Event.writes, Bool.and_eq_true, decide_eq_true_eq] at h_writes
      obtain ⟨rfl, rfl⟩ := h_writes
      obtain rfl := Option.some.inj h_content
      exact h_call.stale_of_settled h_before h_f h_stage (h_jobs ▸ List.mem_singleton_self j) h_e
        h_early
    | polled n found join =>
      obtain ⟨message, -, h_failed⟩ := Option.map_eq_some_iff.1 h_content
      cases h_failed
    | _ => simp [Event.writes] at h_writes

/-- The audit of the timeline that was closed last reports exactly the records that look early by
the history. All of them are false alarms, and there are none if no task that the flush compiles
clashes with one that it reuses and no earlier flush has given up on its compile jobs. -/
theorem early_starts_are_false_alarms
    (h_run : run cfg env (start threads now) ms = some (t, es)) {tl : Timeline}
    (h_last : (Event.observe {} es).last = some tl) :
    (∀ seq, seq ∈ tl.earlyStarts ↔ ∃ past key later,
      history es = past ++ .recordStarted tl.flush seq key :: later ∧
        LooksEarly tl.flush key past) ∧
    (∀ past seq key later, history es = past ++ .recordStarted tl.flush seq key :: later →
      LooksEarly tl.flush key past →
        ∃ before batch during, past = before ++ .began tl.flush batch :: during ∧
          FalseAlarm tl.flush key past during) ∧
    ((∀ worker k call key, .codegenCalled tl.flush worker k call ∈ history es →
        .reused tl.flush key ∈ history es → k.clashesWith key = false) →
      (∀ n < tl.flush, ¬ Late n (history es)) → tl.earlyStarts = []) := by
  have h_audit := mem_earlyStarts_of_run h_run h_last
  refine ⟨h_audit, fun _ _ _ _ => falseAlarm_of_looksEarly h_run, fun h_distinct h_punctual => ?_⟩
  refine List.eq_nil_iff_forall_not_mem.2 fun seq h_seq => ?_
  obtain ⟨past, key, later, h_split, h_early⟩ := (h_audit seq).1 h_seq
  obtain ⟨before, batch, during, rfl, h_alarm⟩ := falseAlarm_of_looksEarly h_run h_split h_early
  cases h_alarm with
  | clash h_reused h_called h_clash =>
    have h_all {e : Event C} (h_e : e ∈ during) : e ∈ history es := by simp [h_split, h_e]
    have h_apart := h_distinct _ _ _ _ (h_all h_called) (h_all h_reused)
    simp [h_apart] at h_clash
  | stale h_scheduled h_earlier h_late h_settled =>
    exact h_punctual _ h_earlier (h_split ▸ h_late.append_left _)

/-- Everything compiles but one text. -/
def refusing (text : String) : Environment Nat where
  codegen _ call :=
    if call.task = text then .failed (.other "unsupported")
    else .code fun _ n => .completed (n + 1)

/-- A flush that compiles the text `a`, and a flush that reuses the artifact beside a record with
the text `b`, which does not compile. -/
def reuseBeside (a b : String) : List (Move Nat) :=
  [[.enqueue ⟨0, "k", a⟩, .flush], List.replicate 2 .caller,
    [.pick (.takeShared 0 0)], List.replicate 4 (.worker 0), List.replicate 4 .caller,
    List.replicate 3 .launcher, [.caller],
    [.enqueue ⟨0, "k", a⟩, .enqueue ⟨0, "k", b⟩, .flush], List.replicate 3 .caller,
    [.pick (.takeShared 0 0)], List.replicate 4 (.worker 0), List.replicate 5 .caller,
    List.replicate 5 .launcher, [.caller]].flatten

/-- The flush and the task in an event that tells of a reused artifact. -/
def reusedKey? : Event C → Option (Nat × TaskId)
  | .reused n key => some (n, key)
  | _ => none

/-- The flush and the task in an event that tells of a call of the code generator. -/
def calledKey? : Event C → Option (Nat × TaskId)
  | .codegenCalled n _ key _ => some (n, key)
  | _ => none

/-- The flush, the place and the task of a record that starts. -/
def startedRecord? : Event C → Option (Nat × Nat × TaskId)
  | .recordStarted n seq key => some (n, seq, key)
  | _ => none

theorem reused_record_is_not_reported :
    ∃ t es tl, run keeping (refusing "b") (start 1 0) (reuseBeside "a" "b") = some (t, es) ∧
      (Event.observe {} es).last = some tl ∧ tl.flush = 2 ∧ tl.compilations = 1 ∧
      tl.startOrder = [0] ∧
      (∀ worker k call key, .codegenCalled tl.flush worker k call ∈ history es →
        .reused tl.flush key ∈ history es → k.clashesWith key = false) ∧
      (∀ n < tl.flush, ¬ Late n (history es)) ∧ tl.earlyStarts = [] := by
  have h_summary : (run keeping (refusing "b") (start 1 0) (reuseBeside "a" "b")).map (fun r =>
      ((Event.observe {} r.2).last.map fun tl => (tl.flush, tl.compilations, tl.startOrder),
        (history r.2).filterMap reusedKey?, (history r.2).filterMap calledKey?,
        (history r.2).any Event.isLate)) =
      some (some (2, 1, [0]), [(2, .ofText "a")], [(1, .ofText "a"), (2, .ofText "b")],
        false) := rfl
  obtain ⟨⟨t, es⟩, h_run, h_eq⟩ := Option.map_eq_some_iff.1 h_summary
  simp only [Prod.mk.injEq] at h_eq
  obtain ⟨h_closed, h_reused, h_called, h_late⟩ := h_eq
  obtain ⟨tl, h_last, h_tl⟩ := Option.map_eq_some_iff.1 h_closed
  simp only [Prod.mk.injEq] at h_tl
  obtain ⟨h_flush, h_compilations, h_order⟩ := h_tl
  have h_distinct (worker : Nat) (k : TaskId) (call : CodegenCall) (key : TaskId)
      (h_call : .codegenCalled tl.flush worker k call ∈ history es)
      (h_reuse : .reused tl.flush key ∈ history es) : k.clashesWith key = false := by
    have h_k : (tl.flush, k) ∈ (history es).filterMap calledKey? :=
      List.mem_filterMap.2 ⟨_, h_call, rfl⟩
    have h_key : (tl.flush, key) ∈ (history es).filterMap reusedKey? :=
      List.mem_filterMap.2 ⟨_, h_reuse, rfl⟩
    rw [h_called, h_flush] at h_k
    rw [h_reused, h_flush] at h_key
    obtain rfl : k = .ofText "b" := by simpa using h_k
    obtain rfl : key = .ofText "a" := by simpa using h_key
    rfl
  have h_punctual (n : Nat) (_ : n < tl.flush) : ¬ Late n (history es) := by
    rintro ⟨waited, join, h_e⟩
    simpa [Event.isLate] using List.any_eq_false.1 h_late _ h_e
  obtain ⟨-, -, h_none⟩ := early_starts_are_false_alarms h_run h_last
  exact ⟨t, es, tl, h_run, h_last, h_flush, h_compilations, h_order, h_distinct, h_punctual,
    h_none h_distinct h_punctual⟩

/-- A record of a later flush reuses an artifact, and the audit reports it because another text with
the same digest is compiled in that flush. -/
theorem reports_reused_record :
    keeping.Valid ∧ ∃ t es tl, run keeping (refusing "aaqaaaaaaaja") (start 1 0)
        (reuseBeside "rcaelumdduab" "aaqaaaaaaaja") = some (t, es) ∧
      t.current = none ∧ (Event.observe {} es).last = some tl ∧ tl.flush = 2 ∧
      .reused 2 (.ofText "rcaelumdduab") ∈ history es ∧
      .recordStarted 2 0 (.ofText "rcaelumdduab") ∈ history es ∧
      (∀ n, ¬ Late n (history es)) ∧ tl.earlyStarts = [0] := by
  have h_summary : (run keeping (refusing "aaqaaaaaaaja") (start 1 0)
      (reuseBeside "rcaelumdduab" "aaqaaaaaaaja")).map (fun r => (r.1.current.isNone,
        (Event.observe {} r.2).last.map fun tl => (tl.flush, tl.earlyStarts),
        (history r.2).any Event.isLate)) = some (true, some (2, [0]), false) := by
    decide +kernel
  have h_events : (run keeping (refusing "aaqaaaaaaaja") (start 1 0)
      (reuseBeside "rcaelumdduab" "aaqaaaaaaaja")).map (fun r =>
        ((history r.2).filterMap reusedKey?, (history r.2).filterMap startedRecord?)) =
      some ([(2, .ofText "rcaelumdduab")],
        [(1, 0, .ofText "rcaelumdduab"), (2, 0, .ofText "rcaelumdduab")]) := by
    decide +kernel
  obtain ⟨⟨t, es⟩, h_run, h_eq⟩ := Option.map_eq_some_iff.1 h_summary
  simp only [Prod.mk.injEq] at h_eq
  obtain ⟨h_idle, h_closed, h_late⟩ := h_eq
  rw [h_run] at h_events
  obtain ⟨h_reused, h_started⟩ := Prod.mk.inj (Option.some.inj h_events)
  obtain ⟨tl, h_last, h_tl⟩ := Option.map_eq_some_iff.1 h_closed
  obtain ⟨h_flush, h_early⟩ := Prod.mk.inj h_tl
  refine ⟨by decide, t, es, tl, h_run, Option.isNone_iff_eq_none.1 h_idle, h_last, h_flush, ?_, ?_,
    ?_, h_early⟩
  · obtain ⟨e, h_e, h_key⟩ := List.mem_filterMap.1 (h_reused ▸ List.mem_singleton_self _)
    cases e with
    | reused =>
      cases h_key
      exact h_e
    | _ => cases h_key
  · have h_second : (2, 0, .ofText "rcaelumdduab") ∈ (history es).filterMap startedRecord? := by
      rw [h_started]
      exact List.mem_cons_of_mem _ (List.mem_singleton_self _)
    obtain ⟨e, h_e, h_key⟩ := List.mem_filterMap.1 h_second
    cases e with
    | recordStarted =>
      cases h_key
      exact h_e
    | _ => cases h_key
  · rintro n ⟨waited, join, h_e⟩
    simpa [Event.isLate] using List.any_eq_false.1 h_late _ h_e

end State

end KernelDispatch
