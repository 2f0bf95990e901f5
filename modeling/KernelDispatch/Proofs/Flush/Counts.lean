/-
  KernelDispatch.Proofs.Flush.Counts

  What a flush counts of the tasks that it requests.

  Between flushes every entry is an artifact of an earlier flush, so a task stands for a
  flush in one of three ways, whatever compile jobs do meanwhile: it is reused if it had an
  artifact when the flush began, it is shared if the flush has requested it already, and
  otherwise it is scheduled (`ReadyCall.standing_eq`). The numbers of the report follow request by
  request (`Report.Accounts.count`), and so does the number of compile jobs of each task
  (`ReadyCall.jobsFor_length`). Neither depends on the order of the records
  (`Report.Accounts.unique`).
-/
import Mathlib.Data.Finset.Card
import KernelDispatch.Proofs.Flush.Requests

namespace KernelDispatch

variable {C : Type} {cfg : Settings} {env : Environment C}

/-! ## Counting requests -/

/-- The report counts the requests for these tasks, if this is the store before them: every task
without an artifact is compiled once, every request for a task with one reuses it, and all other
requests share. -/
structure Report.Accounts {A : Type} (p : Report) (before : ArtifactStore A) (keys : List TaskId) :
    Prop where
  compiled : p.compiled = {key ∈ keys.toFinset | before.contains key = false}.card
  reuses : p.reuses = keys.countP before.contains
  total : p.compiled + p.reuses + p.shares = keys.length

namespace Report.Accounts

variable {A : Type} {before before' : ArtifactStore A} {keys keys' : List TaskId} {p p' : Report}

/-- The request for one more task. -/
theorem count (h : p.Accounts before keys) (key : TaskId) (collisions : Nat) :
    (p.count collisions (if before.contains key then .reused
      else if key ∈ keys then .shared else .scheduled)).Accounts before (keys ++ [key]) := by
  obtain ⟨h_compiled, h_reuses, h_total⟩ := h
  -- Only a task without an artifact that is new is one more to compile.
  have h_card : {k ∈ (keys ++ [key]).toFinset | before.contains k = false}.card =
      p.compiled + if before.contains key = true ∨ key ∈ keys then 0 else 1 := by
    rw [h_compiled, List.toFinset_append, List.toFinset_cons, List.toFinset_nil,
      insert_empty_eq, Finset.union_comm, ← Finset.insert_eq, Finset.filter_insert]
    by_cases h_artifact : before.contains key = true
    · simp [h_artifact]
    · by_cases h_key : key ∈ keys
      · simp [h_artifact, h_key]
      · rw [if_pos (Bool.eq_false_iff.2 h_artifact), if_neg (by simp [h_artifact, h_key]),
          Finset.card_insert_of_notMem (by simp [h_key])]
  have h_count : (keys ++ [key]).countP before.contains =
      p.reuses + if before.contains key = true then 1 else 0 := by
    rw [List.countP_append, List.countP_singleton, h_reuses]
  by_cases h_artifact : before.contains key = true
  · rw [if_pos h_artifact]
    refine ⟨?_, ?_, ?_⟩
    · rw [h_card, if_pos (.inl h_artifact)]
      rfl
    · rw [h_count, if_pos h_artifact]
      rfl
    · simp only [Report.count, List.length_append, List.length_singleton, ← h_total]
      omega
  · rw [if_neg h_artifact]
    rw [if_neg h_artifact] at h_count
    by_cases h_key : key ∈ keys
    · rw [if_pos h_key]
      refine ⟨?_, h_count.symm, ?_⟩
      · rw [h_card, if_pos (.inr h_key)]
        rfl
      · simp only [Report.count, List.length_append, List.length_singleton, ← h_total]
        omega
    · rw [if_neg h_key]
      refine ⟨?_, h_count.symm, ?_⟩
      · rw [h_card, if_neg (by simp [h_artifact, h_key])]
        rfl
      · simp only [Report.count, List.length_append, List.length_singleton, ← h_total]
        omega

/-- The numbers depend neither on the order of the requests nor on anything else of the store than
which tasks have artifacts. -/
theorem unique (h : p.Accounts before keys) (h' : p'.Accounts before' keys')
    (h_perm : keys.Perm keys') (h_contains : ∀ key, before.contains key = before'.contains key) :
    p.compiled = p'.compiled ∧ p.reuses = p'.reuses ∧ p.shares = p'.shares := by
  have h_same : before.contains = before'.contains := funext h_contains
  have h_compiled : p.compiled = p'.compiled := by
    rw [h.compiled, h'.compiled, List.toFinset_eq_of_perm _ _ h_perm, h_same]
  have h_reuses : p.reuses = p'.reuses := by
    rw [h.reuses, h'.reuses, h_same, h_perm.countP_eq]
  refine ⟨h_compiled, h_reuses, ?_⟩
  have h_total := h.total
  have h_total' := h'.total
  rw [h_perm.length_eq] at h_total
  omega

end Report.Accounts

/-- How a task stands if every entry before the flush is an artifact of another flush. -/
theorem ArtifactStore.standing_of_ready {A : Type} {before : ArtifactStore A} {n : Nat}
    {key : TaskId} (h_ready : ∀ slot, before.slot? key = some slot → slot.isReady = true)
    (h_other : before.scheduler? key ≠ some n) (keys : List TaskId) :
    before.standing n keys key = if before.contains key then .reused
      else if key ∈ keys then .shared else .scheduled := by
  unfold standing contains
  cases h_find : before.find? key with
  | none => simp [slot?, h_find]
  | some e =>
    have h_e : e.slot.isReady = true := h_ready e.slot (by rw [slot?, h_find, Option.map_some])
    have h_by : e.scheduledBy ≠ n := by simpa [scheduler?, h_find] using h_other
    simp [slot?, h_find, Entry.standing, h_e, h_by]

namespace State

variable {s s' s₀ t u : State C} {f f' : Flush C} {m : Move C} {ms : List (Move C)}
  {es : List (Stamped C)} {fs : List (Event C)}

/-! ## Who has scheduled the entries -/

theorem scheduler?_storeAfter (store : ArtifactStore (Artifact C)) (found : Polled)
    (key : TaskId) : (storeAfter store found).scheduler? key = store.scheduler? key := by
  unfold storeAfter
  split
  · exact ArtifactStore.scheduler?_rejectPending _ _ _
  · rfl

/-- A move on which a task gets an entry is one of the flush that the entry names. -/
theorem Transition.scheduler?_origin (h : Transition cfg env s m s' fs) {key : TaskId} {n : Nat}
    (h_by : s'.store.scheduler? key = some n) :
    s.store.scheduler? key = some n ∨ ∃ f, s.current = some f ∧ f.number = n := by
  cases h with
  | dropArtifacts => cases h_by
  | @caller f _ _ h_current h_step =>
    have h_request (r : Record C) (h : (s.store.request r.key f.number).2.scheduler? key = some n) :
        s.store.scheduler? key = some n ∨ ∃ f, s.current = some f ∧ f.number = n := by
      rw [ArtifactStore.scheduler?_request, Option.or_eq_some_iff] at h
      rcases h with h_old | ⟨-, h_new⟩
      · exact .inl h_old
      · split at h_new
        · exact .inr ⟨f, h_current, Option.some.inj h_new⟩
        · cases h_new
    cases h_step with
    | schedules | shares | reuses => exact h_request _ h_by
    | polls => exact .inl (by rwa [scheduler?_storeAfter] at h_by)
    | abandons | succeeds | fails =>
      obtain ⟨e, h_find, rfl⟩ := Option.map_eq_some_iff.1 h_by
      exact .inl (Option.map_eq_some_iff.2 ⟨e, (ArtifactStore.find?_of_retain h_find).1, rfl⟩)
    | _ => exact .inl h_by
  | worker _ _ h_step =>
    cases h_step with
    | settles => exact .inl (by rwa [ArtifactStore.scheduler?_settle] at h_by)
    | _ => exact .inl h_by
  | launcher _ h_step => cases h_step <;> exact .inl h_by
  | _ => exact .inl h_by

/-- Every entry names a flush that has begun. -/
theorem scheduler?_le_of_run {threads : Nat} {now : Moment}
    (h_run : run cfg env (start threads now) ms = some (t, es)) :
    ∀ key n, t.store.scheduler? key = some n → n ≤ t.flushes := by
  refine run_induction (P := fun _ t _ => ∀ key n, t.store.scheduler? key = some n → n ≤ t.flushes)
    ?_ ?_ h_run
  · intro key n h_by
    cases h_by
  · intro ms m t es u fs h_run _ h_before h_step key n h_by
    refine Nat.le_trans ?_ h_step.flushes_le
    rcases h_step.scheduler?_origin h_by with h_old | ⟨f, h_f, rfl⟩
    · exact h_before key n h_old
    · exact Nat.le_of_eq ((layout_of_run h_run).inFlush f h_f).number

/-! ## During the flush -/

/-- A task of the flush in progress was requested before, or it is requested now; the history says
so if it is reused. -/
theorem Transition.keys_origin (h : Transition cfg env s m s' fs) (h_f : s.current = some f)
    (h_f' : s'.current = some f') {key : TaskId} (h_key : key ∈ f'.keys) :
    key ∈ f.keys ∨
      ((s.store.request key f.number).1 = .reused → Event.reused f.number key ∈ fs) := by
  have h_same (h_current : s'.current.map Flush.outline = s.current.map Flush.outline) :
      key ∈ f.keys := by
    rw [h_f, h_f'] at h_current
    have h_keys : f'.outline.keys = f.outline.keys := by rw [Option.some.inj h_current]
    have h_keys : f'.keys = f.keys := h_keys
    exact h_keys ▸ h_key
  cases h with
  | enqueue h_idle | dropArtifacts h_idle | begins h_idle => simp [h_idle] at h_f
  | returns | pick | tick => exact .inl (h_same rfl)
  | worker _ _ h_step => exact .inl (h_same h_step.samePlan.current)
  | launcher _ h_step => exact .inl (h_same h_step.plan.2.2)
  | @caller f _ _ h_current h_step =>
    obtain rfl := Option.some.inj (h_current.symm.trans h_f)
    have h_last (r : Record C) (h_mem : key ∈ f.keys ++ [r.key]) : key ∈ f.keys ∨ key = r.key := by
      simpa using h_mem
    cases h_step with
    | @schedules r _ _ h_new =>
      obtain rfl := Option.some.inj h_f'
      refine (h_last r h_key).imp_right ?_
      rintro rfl h_answer
      rw [(ArtifactStore.request_eq_scheduled_iff ..).2 h_new] at h_answer
      cases h_answer
    | @shares r _ _ _ h_shared =>
      obtain rfl := Option.some.inj h_f'
      refine (h_last r h_key).imp_right ?_
      rintro rfl h_answer
      rw [h_shared] at h_answer
      cases h_answer
    | @reuses r =>
      obtain rfl := Option.some.inj h_f'
      refine (h_last r h_key).imp_right ?_
      rintro rfl -
      exact List.mem_append_right _ (List.mem_singleton_self _)
    | unwinds | abandons | succeeds | fails => simp [closed] at h_f'
    | _ =>
      obtain rfl := Option.some.inj h_f'
      exact .inl h_key

namespace ReadyCall

/-- A task is reused, shared or scheduled according to what the store held when the flush began and
to what the flush has requested already. -/
theorem standing_eq (h : ReadyCall cfg env s₀ ms t es) (h_f : t.current = some f)
    (h_old : ∀ key n, s₀.store.scheduler? key = some n → n ≤ s₀.flushes) (key : TaskId) :
    (t.store.request key f.number).1 = if s₀.store.contains key then .reused
      else if key ∈ f.keys then .shared else .scheduled := by
  rw [h.request_eq h_f]
  refine ArtifactStore.standing_of_ready (h.ready key) (fun h_by => ?_) f.keys
  have h_le := h_old key _ h_by
  rw [(h.number h_f).1] at h_le
  omega

/-- The flush reuses every task that it has requested and that had an artifact when it began. -/
theorem reused_of_contains (h : ReadyCall cfg env s₀ ms t es) (h_f : t.current = some f)
    (h_old : ∀ key n, s₀.store.scheduler? key = some n → n ≤ s₀.flushes) {key : TaskId}
    (h_key : key ∈ f.keys) (h_artifact : s₀.store.contains key = true) :
    Event.reused f.number key ∈ history es := by
  refine h.inFlush_induction (P := fun _ es f => key ∈ f.keys →
    Event.reused f.number key ∈ history es) h_f (by simp [firstFlush]) ?_ h_key
  intro ms m t es u fs f f' h_call h_after _ h_f h_f' h_before h_step _ h_key
  have h_number : f'.number = f.number := (h_after.number h_f').1.trans (h_call.number h_f).1.symm
  rw [history_append, history_stamp, h_number]
  rcases h_step.keys_origin h_f h_f' h_key with h_known | h_reused
  · exact List.mem_append_left _ (h_before h_known)
  · refine List.mem_append_right _ (h_reused ?_)
    rw [h_call.standing_eq h_f h_old, if_pos h_artifact]

/-- The report of the flush counts the requests made so far. -/
theorem accounts (h : ReadyCall cfg env s₀ ms t es) (h_f : t.current = some f)
    (h_old : ∀ key n, s₀.store.scheduler? key = some n → n ≤ s₀.flushes) :
    f.report.Accounts s₀.store f.keys := by
  refine h.inFlush_induction (P := fun _ _ f => f.report.Accounts s₀.store f.keys) h_f
    ⟨rfl, rfl, rfl⟩ ?_
  intro ms m t es u fs f f' h_call _ _ h_f _ h_before _ h_change
  cases h_change with
  | @requests r _ _ h_f' =>
    rw [h_call.standing_eq h_f h_old] at h_f'
    rw [h_f']
    exact h_before.count r.key _
  | begins _ h_f' | polls _ _ _ h_f' | advances _ h_f' =>
    rw [h_f']
    exact h_before
  | still h_outline =>
    have h_same : f'.outline.report.Accounts s₀.store f'.outline.keys := by
      rw [h_outline]
      exact h_before
    exact h_same

/-- The flush has submitted one compile job for each task that it has requested and that had no
artifact when it began, and none for any other. -/
theorem jobsFor_length (h : ReadyCall cfg env s₀ ms t es) (h_f : t.current = some f)
    (key : TaskId) : (jobsFor key (history es)).length =
      if key ∈ f.keys ∧ s₀.store.contains key = false then 1 else 0 := by
  have h_by := h.scheduler?_eq h_f key
  have h_origin := h.origin h_f key
  -- Whether the flush has requested a task that was absent shows in the entry of the task.
  have h_requested (h_absent : s₀.store.slot? key = none) :
      key ∈ f.keys ↔ t.store.slot? key ≠ none := by
    have h_none : s₀.store.scheduler? key = none := by
      rw [ArtifactStore.scheduler?, Option.map_eq_none_iff]
      exact Option.map_eq_none_iff.1 h_absent
    have h_now : t.store.slot? key = none ↔ t.store.scheduler? key = none := by
      rw [ArtifactStore.scheduler?, ArtifactStore.slot?, Option.map_eq_none_iff,
        Option.map_eq_none_iff]
    rw [Ne, h_now, h_by, h_none]
    simp
  have h_contains (slot : Option (Slot (Artifact C))) (h_slot : s₀.store.slot? key = slot) :
      s₀.store.contains key = slot.any Slot.isReady := by
    rw [ArtifactStore.contains, h_slot]
    cases slot <;> rfl
  generalize t.store.slot? key = now at h_origin h_requested
  cases h_origin with
  | absent h_before h_jobs =>
    rw [h_jobs, if_neg fun h_and => (h_requested h_before).1 h_and.1 rfl]
    rfl
  | kept h_before h_jobs =>
    rw [h_jobs, h_contains _ h_before, if_neg fun h_and => Bool.noConfusion h_and.2]
    rfl
  | awaited h_before h_jobs | written h_before h_jobs =>
    rw [h_jobs, if_pos ⟨(h_requested h_before).2 (by simp), by rw [h_contains _ h_before]; rfl⟩]
    rfl

end ReadyCall

/-! ## After the flush -/

/-- A caller that leaves its flush has requested all its tasks. -/
theorem CallerStep.keys_of_leaves (h : CallerStep cfg env s f s' fs)
    (h_layout : FlushLayout cfg s f) (h_idle : s'.current = none) :
    f.keys = f.batch.map Record.key := by
  have h_stage := h_layout.stage
  cases h with
  | unwinds h_at | abandons h_at | succeeds h_at | fails h_at =>
    simp only [StageLayout, h_at] at h_stage
    simp_all
  | _ => cases h_idle

/-- A move that leaves no flush in progress submits no compile job. -/
theorem Transition.jobsFor_of_idle (h : Transition cfg env s m s' fs) (h_idle : s'.current = none)
    (key : TaskId) : jobsFor key fs = [] := by
  refine List.filterMap_eq_nil_iff.2 fun e h_e => ?_
  cases e with
  | scheduled n j k =>
    obtain ⟨f, r, rest, -, -, -, -, -, -, -, h_current⟩ := h.of_scheduled h_e
    simp [h_idle] at h_current
  | _ => rfl

/-- A call returns without a failure from a flush of nothing, or with the report of its flush. -/
theorem Transition.of_returned_ok (h : Transition cfg env s m s' fs) {report : Report}
    (h_returned : Event.returned (.ok report) ∈ fs) :
    s.backlog = [] ∧ s.current = none ∧ m = .flush ∧ report = {} ∨
      ∃ f, s.current = some f ∧ f.stage = .draining ∧ f.report = report := by
  cases h with
  | returns h_idle h_empty =>
    cases List.mem_singleton.1 h_returned
    exact .inl ⟨h_empty, h_idle, rfl, rfl⟩
  | @caller f _ _ h_current h_step =>
    cases h_step with
    | succeeds h_stage _ h_result =>
      have h_report : f.report = report := by
        simp only [List.mem_cons, endedEvent, reduceCtorEq, Event.returned.injEq, Except.ok.injEq,
          List.not_mem_nil, or_false, false_or] at h_returned
        subst h_returned
        unfold result at h_result
        split at h_result
        · exact Except.ok.inj h_result
        · cases h_result
      exact .inr ⟨f, h_current, h_stage, h_report⟩
    | schedules | shares | reuses => simp at h_returned
    | _ => simp [joinedEvent, endedEvent] at h_returned
  | worker _ _ h_step => cases h_step <;> simp at h_returned
  | launcher _ h_step => cases h_step <;> simp at h_returned
  | _ => simp at h_returned

/-- The flush of a call has requested all its tasks, and this is its report: the call has returned
it, or the flush is still in progress. -/
def Reports (t : State C) (es : List (Stamped C)) (report : Report) : Prop :=
  Event.returned (.ok report) ∈ history es ∨
    ∃ f, t.current = some f ∧ ¬ f.Requesting ∧ f.report = report

theorem keys_of_requested (h_layout : Layout cfg s₀)
    (h_run : run cfg env s₀ (.flush :: ms) = some (t, es)) (h_noCall : ∀ m ∈ ms, m.isCall = false)
    (h_f : t.current = some f) (h_stage : ¬ f.Requesting) :
    f.keys = s₀.backlog.map Record.key := by
  rw [((h_layout.of_run h_run).inFlush f h_f).keys_eq h_stage,
    (number_of_call h_layout h_run h_noCall h_f).2]

/-- What holds of the report of a flush of nothing, and of that of the flush in progress from when
all tasks have been requested, holds of the report of the call. -/
theorem Reports.holds {P : Report → Prop} {report : Report} (h : Reports t es report)
    (h_run : run cfg env s₀ (.flush :: ms) = some (t, es))
    (h_noCall : ∀ m ∈ ms, m.isCall = false) (h_empty : s₀.backlog = [] → P {})
    (h_inFlush : ∀ {ms t es f}, run cfg env s₀ (.flush :: ms) = some (t, es) →
      (∀ m ∈ ms, m.isCall = false) → t.current = some f → ¬ f.Requesting → P f.report) :
    P report := by
  rcases h with h_returned | ⟨f, h_f, h_stage, rfl⟩
  · refine flush_induction (P := fun _ _ es => Event.returned (.ok report) ∈ history es → P report)
      h_run h_noCall ?_ ?_ h_returned
    · intro u fs h_flush h_e
      rw [history_stamp] at h_e
      rcases h_flush.of_returned_ok h_e with ⟨h_none, -, -, rfl⟩ | ⟨f, h_f, -⟩
      · exact h_empty h_none
      · cases h_flush with
        | returns h_idle | begins h_idle => simp [h_idle] at h_f
    · intro ms m t es u fs h_prefix h_past h_noCall _ h_before h_step h_e
      rw [history_append, history_stamp] at h_e
      rcases List.mem_append.1 h_e with h_old | h_new
      · exact h_before h_old
      · rcases h_step.of_returned_ok h_new with ⟨-, -, rfl, -⟩ | ⟨f, h_f, h_stage, rfl⟩
        · cases h_noCall
        · exact h_inFlush h_prefix h_past h_f (by simp [Flush.Requesting, h_stage])
  · exact h_inFlush h_run h_noCall h_f h_stage

namespace ReadyCall

theorem keys_eq (h : ReadyCall cfg env s₀ ms t es) (h_f : t.current = some f)
    (h_stage : ¬ f.Requesting) : f.keys = s₀.backlog.map Record.key :=
  keys_of_requested h.layout h.reached h.noCall h_f h_stage

/-- Once all tasks have been requested, one compile job has been submitted for each of them that had
no artifact, and none for any other task. -/
theorem jobsFor_length_of_requested (h : ReadyCall cfg env s₀ ms t es)
    (h_stage : ∀ f, t.current = some f → ¬ f.Requesting) (key : TaskId) :
    (jobsFor key (history es)).length =
      if key ∈ s₀.backlog.map Record.key ∧ s₀.store.contains key = false then 1 else 0 := by
  cases h_current : t.current with
  | some f => rw [h.jobsFor_length h_current, h.keys_eq h_current (h_stage f h_current)]
  | none =>
    refine h.induction (P := fun t es => t.current = none → (jobsFor key (history es)).length =
      if key ∈ s₀.backlog.map Record.key ∧ s₀.store.contains key = false then 1 else 0)
      ?_ ?_ h_current
    · intro u fs h_flush h_idle
      rw [history_stamp, h_flush.jobsFor_of_idle h_idle]
      cases h_flush with
      | returns _ h_empty => simp [h_empty]
      | begins => cases h_idle
    · intro ms m t es u fs h_call _ _ h_before h_step h_idle
      rw [history_append, history_stamp, jobsFor_append, h_step.jobsFor_of_idle h_idle,
        List.append_nil]
      cases h_f : t.current with
      | none => exact h_before h_f
      | some f =>
        have h_layout := (h_call.layout.of_run h_call.reached).inFlush f h_f
        have h_keys := (h_step.caller_of_leaves h_f h_idle).keys_of_leaves h_layout h_idle
        rw [h_call.jobsFor_length h_f, h_keys, (h_call.number h_f).2]

/-- The report counts all requests of the flush. -/
theorem accounts_of_reports (h : ReadyCall cfg env s₀ ms t es)
    (h_old : ∀ key n, s₀.store.scheduler? key = some n → n ≤ s₀.flushes) {report : Report}
    (h_reports : Reports t es report) :
    report.Accounts s₀.store (s₀.backlog.map Record.key) ∧
      report.records = report.compiled + report.reuses + report.shares := by
  refine h_reports.holds (P := fun report => report.Accounts s₀.store (s₀.backlog.map Record.key) ∧
    report.records = report.compiled + report.reuses + report.shares) h.reached h.noCall
    (fun h_empty => ?_) fun {ms t es f} h_run h_noCall h_f h_stage => ?_
  · rw [h_empty]
    exact ⟨⟨rfl, rfl, rfl⟩, rfl⟩
  · have h_call : ReadyCall cfg env s₀ ms t es := ⟨h.layout, h.ready, h_noCall, h_run⟩
    have h_accounts := h_call.accounts h_f h_old
    rw [h_call.keys_eq h_f h_stage] at h_accounts
    refine ⟨h_accounts, ?_⟩
    rw [h_accounts.total, List.length_map, ← (h_call.number h_f).2]
    exact ((h.layout.of_run h_run).inFlush f h_f).report.2

end ReadyCall

/-- A call of `flush` in any run without a panic of a caller before it, with any order of moves,
also of compile jobs that earlier flushes have left behind. Once the tasks of the records have been
requested, one compile job has been submitted for each task that had no artifact when the flush
began, and none for any other task. The report says how many these are, how many records had
artifacts when the flush began, and how many are left; this makes up all records. Any other call
with the same tasks in any order and artifacts for the same of them reports the same numbers. -/
theorem requests_are_accounted {threads : Nat} {now : Moment} {ms₀ : List (Move C)}
    {es₀ : List (Stamped C)} (h_before : run cfg env (start threads now) ms₀ = some (s₀, es₀))
    (h_calm : Calm (history es₀)) (h_run : run cfg env s₀ (.flush :: ms) = some (t, es))
    (h_noCall : ∀ m ∈ ms, m.isCall = false) :
    ((∀ f, t.current = some f → ¬ f.Requesting) → ∀ key, (jobsFor key (history es)).length =
      if key ∈ s₀.backlog.map Record.key ∧ s₀.store.contains key = false then 1 else 0) ∧
    (∀ report, Reports t es report →
      report.Accounts s₀.store (s₀.backlog.map Record.key) ∧
        report.records = report.compiled + report.reuses + report.shares) ∧
    ∀ {cfg' : Settings} {env' : Environment C} {threads' : Nat} {now' : Moment}
      {ms₀' ms' : List (Move C)} {s₀' t' : State C} {es₀' es' : List (Stamped C)},
      run cfg' env' (start threads' now') ms₀' = some (s₀', es₀') → Calm (history es₀') →
      run cfg' env' s₀' (.flush :: ms') = some (t', es') → (∀ m ∈ ms', m.isCall = false) →
      (s₀.backlog.map Record.key).Perm (s₀'.backlog.map Record.key) →
      (∀ key, s₀.store.contains key = s₀'.store.contains key) →
      ∀ report report', Reports t es report → Reports t' es' report' →
        report.compiled = report'.compiled ∧ report.reuses = report'.reuses ∧
          report.shares = report'.shares := by
  have h_call {cfg : Settings} {env : Environment C} {threads : Nat} {now : Moment}
      {ms₀ ms : List (Move C)} {s₀ t : State C} {es₀ es : List (Stamped C)}
      (h_before : run cfg env (start threads now) ms₀ = some (s₀, es₀))
      (h_calm : Calm (history es₀)) (h_run : run cfg env s₀ (.flush :: ms) = some (t, es))
      (h_noCall : ∀ m ∈ ms, m.isCall = false) : ReadyCall cfg env s₀ ms t es := by
    have h_idle : s₀.current = none := by
      obtain ⟨_, _, _, h_step, -, -⟩ := run_cons.1 h_run
      obtain ⟨-, _, h_begins, -⟩ := step_eq_some_iff.1 h_step
      cases h_begins with
      | returns h_idle | begins h_idle => exact h_idle
    exact ⟨layout_of_run h_before, ready_when_idle_of_run h_before h_calm h_idle, h_noCall, h_run⟩
  have h_ready := h_call h_before h_calm h_run h_noCall
  have h_old := scheduler?_le_of_run h_before
  refine ⟨h_ready.jobsFor_length_of_requested, fun report => h_ready.accounts_of_reports h_old, ?_⟩
  intro cfg' env' threads' now' ms₀' ms' s₀' t' es₀' es' h_before' h_calm' h_run' h_noCall' h_perm
    h_contains report report' h_reports h_reports'
  have h_ready' := h_call h_before' h_calm' h_run' h_noCall'
  exact (h_ready.accounts_of_reports h_old h_reports).1.unique
    (h_ready'.accounts_of_reports (scheduler?_le_of_run h_before') h_reports').1 h_perm h_contains

/-- The store keeps one artifact across flushes. -/
def keepingOne : Settings :=
  { impatient with retention := .acrossFlushes 1 }

/-- A flush has given up on one of its two tasks. That task is enqueued twice more, between the
other one and a new one. -/
def halfKnown : List (Move Nat) :=
  [halfCompiled, List.replicate 4 .launcher,
    [.caller, .enqueue ⟨0, "k", "a"⟩, .enqueue ⟨0, "k", "b"⟩, .enqueue ⟨0, "k", "b"⟩,
      .enqueue ⟨0, "k", "c"⟩]].flatten

/-- Between two requests for a task a compile job that an earlier flush has left behind publishes an
artifact for it. -/
def requestsAmidJob : List (Move Nat) :=
  [List.replicate 2 .caller, List.replicate 2 (.worker 0), List.replicate 3 .caller].flatten

/-- Whether a flush waits for its compile jobs. -/
def isJoining (f : Flush C) : Bool :=
  match f.stage with
  | .joining => true
  | _ => false

theorem four_requests_are_accounted :
    ∃ s₀ es₀ t es report, run keepingOne counted (start 1 0) halfKnown = some (s₀, es₀) ∧
      Calm (history es₀) ∧
      run keepingOne counted s₀ (.flush :: requestsAmidJob) = some (t, es) ∧
      (∀ m ∈ requestsAmidJob, m.isCall = false) ∧ Reports t es report ∧
      (report.compiled, report.reuses, report.shares) = (2, 1, 1) ∧
      report.records = report.compiled + report.reuses + report.shares ∧
      (jobsFor (.ofText "b") (history es)).length =
        if .ofText "b" ∈ s₀.backlog.map Record.key ∧
          s₀.store.contains (.ofText "b") = false then 1 else 0 := by
  have h_summary : ((run keepingOne counted (start 1 0) halfKnown).bind fun r₀ =>
      (run keepingOne counted r₀.1 (.flush :: requestsAmidJob)).map fun r =>
        (answers (history r₀.2), r.1.current.map fun f =>
          ((f.report.compiled, f.report.reuses, f.report.shares), isJoining f))) =
      some ([.returned (.error (.unfinished 1 2 (.compileOverdue 1 (.ofNanos 1))))],
        some ((2, 1, 1), true)) := rfl
  obtain ⟨⟨s₀, es₀⟩, h_before, h_later⟩ := Option.bind_eq_some_iff.1 h_summary
  obtain ⟨⟨t, es⟩, h_run, h_eq⟩ := Option.map_eq_some_iff.1 h_later
  simp only [Prod.mk.injEq] at h_eq
  obtain ⟨h_answers, h_report⟩ := h_eq
  have h_calm : Calm (history es₀) := by
    intro message h_unwound
    have h_answer := mem_answers.2 ⟨h_unwound, rfl⟩
    rw [h_answers] at h_answer
    simp at h_answer
  have h_noCall : ∀ m ∈ requestsAmidJob, m.isCall = false := by decide
  obtain ⟨f, h_f, h_numbers⟩ := Option.map_eq_some_iff.1 h_report
  obtain ⟨h_numbers, h_joining⟩ := Prod.mk.inj h_numbers
  have h_stage : ¬ f.Requesting := by
    rintro ⟨rest, h_requesting⟩
    simp [isJoining, h_requesting] at h_joining
  have h_reports : Reports t es f.report := .inr ⟨f, h_f, h_stage, rfl⟩
  obtain ⟨h_jobs, h_accounts, -⟩ := requests_are_accounted h_before h_calm h_run h_noCall
  refine ⟨s₀, es₀, t, es, f.report, h_before, h_calm, h_run, h_noCall, h_reports, h_numbers,
    (h_accounts f.report h_reports).2, h_jobs (fun f' h_f' => ?_) (.ofText "b")⟩
  obtain rfl := Option.some.inj (h_f'.symm.trans h_f)
  exact h_stage

end State

end KernelDispatch
