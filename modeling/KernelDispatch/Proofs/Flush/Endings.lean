/-
  KernelDispatch.Proofs.Flush.Endings

  A call of `flush` whose compile jobs keep to its deadline.

  `LoneCall` is a call with no compile jobs left over from earlier ones. Each of its
  own compile jobs comes to its end before the deadline of the wait, or after the
  flush has given up on it; `endings` is what the jobs come to before the deadline, in
  order. A job that settles before the deadline finds its slot pending
  (`LoneCall.changed_of_early`), and one that settles later finds it failed. So at every
  moment of the call the endings tell which slots hold artifacts
  (`LoneCall.supply_eq_some_iff`).
-/
import KernelDispatch.Proofs.Flush.InFlight
import KernelDispatch.Proofs.Flush.Requests

namespace KernelDispatch

variable {C : Type} {cfg : Settings} {env : Environment C}

/-! ## Endings -/

/-- What a compile job comes to: first it settles its slot, then it reports; or it is lost. -/
inductive Ending (C : Type) where
  | settled (job : Nat) (key : TaskId) (content : Slot (Artifact C))
  | reported (job : Nat) (outcome : Outcome)
  | lost (job : Nat)

namespace Ending

/-- The artifact that a job has compiled for a task. -/
def artifact? (key : TaskId) : Ending C → Option (Artifact C)
  | settled _ k (.ready artifact) => if k = key then some artifact else none
  | _ => none

/-- The outcome that a job has reported. -/
def outcome? : Ending C → Option Outcome
  | reported _ outcome => some outcome
  | _ => none

/-- Whether a job is lost. -/
def isLost : Ending C → Bool
  | lost _ => true
  | _ => false

theorem artifact?_eq_some_iff {key : TaskId} {x : Ending C} {artifact : Artifact C} :
    x.artifact? key = some artifact ↔ ∃ j, x = .settled j key (.ready artifact) := by
  constructor
  · intro h
    cases x with
    | settled j k content =>
      cases content with
      | ready a =>
        simp only [artifact?, Option.ite_none_right_eq_some, Option.some.injEq] at h
        obtain ⟨rfl, rfl⟩ := h
        exact ⟨j, rfl⟩
      | pending | failed => cases h
    | reported | lost => cases h
  · rintro ⟨j, rfl⟩
    exact if_pos rfl

end Ending

/-- What an event says about the end of a compile job of a flush. -/
def Event.ending? (n : Nat) : Event C → Option (Ending C)
  | slotSettled flush job key content _ =>
    if flush = n then some (.settled job key content) else none
  | jobReported flush job outcome => if flush = n then some (.reported job outcome) else none
  | compileJobLost flush job _ => if flush = n then some (.lost job) else none
  | _ => none

/-- What the compile jobs of a flush come to before the moment `due`. -/
def endings (n : Nat) (due : Moment) (es : List (Stamped C)) : List (Ending C) :=
  es.filterMap fun e => if e.1 < due then e.2.ending? n else none

/-- The artifact for a task: the one that is there already, or the one that a job has compiled. -/
def supply (before : TaskId → Option (Slot (Artifact C))) (ends : List (Ending C))
    (key : TaskId) : Option (Artifact C) :=
  match before key with
  | some (.ready artifact) => some artifact
  | _ => ends.findSome? (·.artifact? key)

theorem endings_append (n : Nat) (due : Moment) (es fs : List (Stamped C)) :
    endings n due (es ++ fs) = endings n due es ++ endings n due fs :=
  List.filterMap_append ..

theorem mem_endings {n : Nat} {due : Moment} {es : List (Stamped C)} {x : Ending C} :
    x ∈ endings n due es ↔ ∃ moment e, (moment, e) ∈ es ∧ moment < due ∧ e.ending? n = some x := by
  constructor
  · intro h
    obtain ⟨⟨moment, e⟩, h_e, h_x⟩ := List.mem_filterMap.1 h
    by_cases h_early : moment < due
    · exact ⟨moment, e, h_e, h_early, by simpa [h_early] using h_x⟩
    · simp [h_early] at h_x
  · rintro ⟨moment, e, h_e, h_early, h_x⟩
    exact List.mem_filterMap.2 ⟨(moment, e), h_e, by simpa [h_early] using h_x⟩

/-- A job has settled the slot of a task before the deadline. -/
theorem mem_endings_settled {n j : Nat} {due : Moment} {es : List (Stamped C)} {key : TaskId}
    {content : Slot (Artifact C)} :
    .settled j key content ∈ endings n due es ↔
      ∃ moment changed, (moment, Event.slotSettled n j key content changed) ∈ es ∧
        moment < due := by
  rw [mem_endings]
  constructor
  · rintro ⟨moment, e, h_e, h_early, h_x⟩
    cases e with
    | slotSettled flush job k c changed =>
      simp only [Event.ending?] at h_x
      split at h_x
      · next h_flush =>
        obtain ⟨rfl, rfl, rfl⟩ := Ending.settled.inj (Option.some.inj h_x)
        exact ⟨moment, changed, h_flush ▸ h_e, h_early⟩
      · contradiction
    | jobReported | compileJobLost =>
      simp only [Event.ending?] at h_x
      split at h_x <;> cases h_x
    | _ => simp [Event.ending?] at h_x
  · rintro ⟨moment, changed, h_e, h_early⟩
    exact ⟨moment, _, h_e, h_early, by simp [Event.ending?]⟩

namespace State

variable {s₀ s s' t : State C} {f f' : Flush C} {due : Moment} {ms : List (Move C)}
  {es : List (Stamped C)}

theorem endings_stamp (n : Nat) (due now : Moment) (es : List (Event C)) :
    endings n due (stamp now es) =
      if now < due then es.filterMap (Event.ending? n) else [] := by
  simp only [endings, stamp, List.filterMap_map]
  split
  · next h_early => simp [h_early]
  · next h_late => simp [h_late]

/-- Only a compile job that is there comes to an end. -/
theorem Transition.of_ending {m : Move C} {fs : List (Event C)} {u : State C}
    (h : Transition cfg env t m u fs) {n : Nat} {e : Event C} (h_e : e ∈ fs)
    (h_ending : e.ending? n ≠ none) : ∃ job ∈ t.jobs, job.flush = n := by
  have h_quiet (h_none : ∀ e ∈ fs, e.ending? n = none) : ∃ job ∈ t.jobs, job.flush = n :=
    absurd (h_none e h_e) h_ending
  cases h with
  | @worker _ _ job _ _ h_running h_found h_step =>
    have h_job : job ∈ t.jobs := List.mem_of_find?_eq_some h_found
    cases h_step with
    | settles | reports | loses =>
      obtain rfl := List.mem_singleton.1 h_e
      simp only [Event.ending?, ne_eq, ite_eq_right_iff, reduceCtorEq, imp_false,
        not_not] at h_ending
      exact ⟨job, h_job, h_ending⟩
    | _ => exact h_quiet (by simp [Event.ending?])
  | caller h_current h_step =>
    refine h_quiet ?_
    cases h_step with
    | schedules | shares | reuses => simp [Event.ending?, or_imp, forall_and]
    | _ => simp [Event.ending?, joinedEvent, endedEvent]
  | launcher h_lane h_step => exact h_quiet (by cases h_step <;> simp [Event.ending?])
  | _ => exact h_quiet (by simp [Event.ending?])

/-- A compile job that has not settled after a move has been scheduled by it, or it has not settled
before either. -/
theorem Transition.open_origin {m : Move C} {fs : List (Event C)} {u : State C}
    (h_step : Transition cfg env t m u fs) (h_numbered : Numbered t) {job : CompileJob C}
    (h_job : job ∈ u.jobs) (h_open : ∀ outcome, job.phase ≠ .settled outcome) :
    (∃ n j, Event.scheduled n j job.key ∈ fs) ∨
      ∃ old ∈ t.jobs, old.id = job.id ∧ old.key = job.key ∧
        ∀ outcome, old.phase ≠ .settled outcome := by
  rcases h_step.job_step h_numbered h_job with
    h_old | ⟨-, h_new⟩ | ⟨old, phase, h_old, h_phase, rfl⟩
  · exact .inr ⟨job, h_old, rfl, rfl, h_open⟩
  · exact .inl ⟨_, _, h_new⟩
  · refine .inr ⟨old, h_old, rfl, rfl, fun outcome h_settled => ?_⟩
    rw [h_settled] at h_phase
    cases h_phase

/-! ## Calls -/

/-- A call of `flush` with nothing left over from earlier ones: at rest before it, with only
artifacts in the store. The deadline of its wait for the compile jobs is `due`; what a job comes to
it comes to before that, or after the flush has given up. The clock can represent all deadlines, and
what fails to compile does not keep other records from running. -/
structure LoneCall (cfg : Settings) (env : Environment C) (s₀ : State C) (due : Moment)
    (ms : List (Move C)) (t : State C) (es : List (Stamped C)) : Prop where
  rested : Rested s₀
  ready : AllReady s₀
  noCall : ∀ m ∈ ms, m.isCall = false
  reached : run cfg env s₀ (.flush :: ms) = some (t, es)
  runOthers : cfg.onFailure = .runOthers
  joinClock : cfg.compilePatience.deadline? t.now ≠ none
  launchClock : cfg.dispatchPatience.deadline? t.now ≠ none
  deadline : ∀ ms₁ ms₂ s es₁ f, ms = ms₁ ++ ms₂ → run cfg env s₀ (.flush :: ms₁) = some (s, es₁) →
    s.current = some f → ¬ f.Requesting → f.joinDeadline = due
  timely : ∀ past e later, es = past ++ e :: later → e.2.ending? (s₀.flushes + 1) ≠ none →
    e.1 < due ∨ Late (s₀.flushes + 1) (history past)

namespace LoneCall

/-- A call has kept to its deadline as far as it has come. -/
theorem before {m : Move C} {u : State C} {fs : List (Event C)}
    (h : LoneCall cfg env s₀ due (ms ++ [m]) u (es ++ stamp t.now fs))
    (h_run : run cfg env s₀ (.flush :: ms) = some (t, es))
    (h_step : Transition cfg env t m u fs) : LoneCall cfg env s₀ due ms t es where
  rested := h.rested
  ready := h.ready
  noCall m' h_m' := h.noCall m' (List.mem_append_left _ h_m')
  reached := h_run
  runOthers := h.runOthers
  joinClock h_none := h.joinClock (deadline?_eq_none_of_le h_none h_step.now_le)
  launchClock h_none := h.launchClock (deadline?_eq_none_of_le h_none h_step.now_le)
  deadline ms₁ ms₂ s es₁ f h_ms h_s :=
    h.deadline ms₁ (ms₂ ++ [m]) s es₁ f (by rw [h_ms, List.append_assoc]) h_s
  timely past e later h_es :=
    h.timely past e (later ++ stamp t.now fs) (by rw [h_es, List.append_assoc]; rfl)

/-- Induction along a call that keeps to its deadline. -/
theorem induction {P : State C → List (Stamped C) → Prop} (h : LoneCall cfg env s₀ due ms t es)
    (h_first : ∀ u fs, Transition cfg env s₀ .flush u fs → P u (stamp s₀.now fs))
    (h_next : ∀ ms m t es u fs, LoneCall cfg env s₀ due ms t es →
      LoneCall cfg env s₀ due (ms ++ [m]) u (es ++ stamp t.now fs) → t.aborted = false →
      P t es → Transition cfg env t m u fs → P u (es ++ stamp t.now fs)) :
    P t es := by
  refine flush_induction (P := fun ms t es => LoneCall cfg env s₀ due ms t es → P t es)
    h.reached h.noCall (fun u fs h_flush _ => h_first u fs h_flush) ?_ h
  intro ms m t es u fs h_run _ _ h_alive h_before h_step h_after
  have h_call := h_after.before h_run h_step
  exact h_next ms m t es u fs h_call h_after h_alive (h_before h_call) h_step

theorem fresh (h : LoneCall cfg env s₀ due ms t es) : FreshCall cfg env s₀ ms t es :=
  ⟨h.rested, h.ready, h.noCall, h.reached⟩

theorem consistent (h : LoneCall cfg env s₀ due ms t es) : Consistent cfg t (history es) :=
  h.fresh.consistent

theorem filed (h : LoneCall cfg env s₀ due ms t es) (j : Nat) : Filed t (history es) j :=
  h.fresh.filed j

theorem number (h : LoneCall cfg env s₀ due ms t es) (h_f : t.current = some f) :
    f.number = s₀.flushes + 1 ∧ f.batch = s₀.backlog :=
  h.fresh.number h_f

/-- Induction along a call of a flush of some records, over the moves after which it is in
progress. -/
theorem inFlush_induction {P : State C → List (Stamped C) → Flush C → Prop}
    (h : LoneCall cfg env s₀ due ms t es) (h_f : t.current = some f)
    (h_first : P { s₀ with flushes := s₀.flushes + 1, current := some s₀.firstFlush }
      (stamp s₀.now [.began (s₀.flushes + 1) s₀.backlog]) s₀.firstFlush)
    (h_next : ∀ {ms m t es u fs f f'}, LoneCall cfg env s₀ due ms t es →
      LoneCall cfg env s₀ due (ms ++ [m]) u (es ++ stamp t.now fs) → t.aborted = false →
      t.current = some f → u.current = some f' → P t es f → Transition cfg env t m u fs →
      FlushChange cfg t f u f' fs → P u (es ++ stamp t.now fs) f') :
    P t es f := by
  refine h.induction (P := fun t es => ∀ f, t.current = some f → P t es f) ?_ ?_ f h_f
  · intro u fs h_flush f h_f
    cases h_flush with
    | returns h_idle => simp [h_idle] at h_f
    | begins =>
      obtain rfl := Option.some.inj h_f
      exact h_first
  · intro ms m t es u fs h_call h_after h_alive h_before h_step f' h_f'
    obtain ⟨f, h_f⟩ := h_after.fresh.inProgress h_step h_f'
    exact h_next h_call h_after h_alive h_f h_f' (h_before f h_f) h_step
      (h_step.flushChange h_f h_f')

/-- A call whose deadline the clock can represent does not panic. -/
theorem calm (h : LoneCall cfg env s₀ due ms t es) : Calm (history es) :=
  h.fresh.calm h.joinClock

/-- As long as the flush has not given up at its deadline, it is in progress while there are compile
jobs. -/
theorem inProgress_of_job (h : LoneCall cfg env s₀ due ms t es)
    (h_late : ¬ Late (s₀.flushes + 1) (history es)) {job : CompileJob C} (h_job : job ∈ t.jobs) :
    ∃ f, t.current = some f := by
  rcases explained_of_run h.rested h.reached job h_job with ⟨f, h_f, -⟩ | h_gaveUp | h_panic
  · exact ⟨f, h_f⟩
  · rw [h.fresh.job_flush h_job] at h_gaveUp
    exact absurd h_gaveUp h_late
  · exact absurd h.calm h_panic

/-! ## The deadline -/

/-- The flush gives up on its jobs at the deadline at the earliest. -/
theorem due_le_of_late (h : LoneCall cfg env s₀ due ms t es)
    (h_late : Late (s₀.flushes + 1) (history es)) : due ≤ t.now := by
  refine h.induction (P := fun t es => Late (s₀.flushes + 1) (history es) → due ≤ t.now)
    ?_ ?_ h_late
  · rintro u fs h_flush ⟨waited, join, h_e⟩
    rw [history_stamp] at h_e
    cases h_flush <;> simp at h_e
  · rintro ms m t es u fs h_call - - h_before h_step ⟨waited, join, h_e⟩
    refine Nat.le_trans ?_ h_step.now_le
    rw [history_append, history_stamp] at h_e
    rcases List.mem_append.1 h_e with h_old | h_new
    · exact h_before ⟨waited, join, h_old⟩
    · obtain ⟨f, _, h_f, -, h_stage, -, h_poll, -⟩ := h_step.of_polled h_new
      have h_joining : ¬ f.Requesting := by
        rintro ⟨rest, h_requesting⟩
        simp [h_stage] at h_requesting
      rw [← h_call.deadline ms [] t es f (by simp) h_call.reached h_f h_joining]
      rcases poll_cases h_poll with ⟨_, h_found, -⟩ | ⟨-, -, -, h_deadline, -⟩ | ⟨h_found, -⟩
      · cases h_found
      · exact h_deadline
      · cases h_found

/-- Whatever a job comes to before the flush gives up at its deadline is in time. -/
theorem early_of_not_late (h : LoneCall cfg env s₀ due ms t es)
    (h_late : ¬ Late (s₀.flushes + 1) (history es)) {e : Stamped C} (h_e : e ∈ es)
    (h_ending : e.2.ending? (s₀.flushes + 1) ≠ none) : e.1 < due := by
  obtain ⟨past, later, h_split⟩ := List.append_of_mem h_e
  refine (h.timely past e later h_split h_ending).resolve_right fun h_past => h_late ?_
  rw [h_split, history_append]
  exact h_past.append_left _

theorem endings_of_not_late (h : LoneCall cfg env s₀ due ms t es)
    (h_late : ¬ Late (s₀.flushes + 1) (history es)) :
    endings (s₀.flushes + 1) due es =
      (history es).filterMap (Event.ending? (s₀.flushes + 1)) := by
  rw [endings, history, List.filterMap_map]
  refine List.filterMap_congr fun e h_e => ?_
  by_cases h_none : e.2.ending? (s₀.flushes + 1) = none
  · simp [h_none]
  · simp [h.early_of_not_late h_late h_e h_none]

/-- After the deadline nothing is in time any more. -/
theorem endings_of_due (n : Nat) (fs : List (Event C)) (h_due : due ≤ t.now) :
    endings n due (es ++ stamp t.now fs) = endings n due es := by
  rw [endings_append, endings_stamp, if_neg (Nat.not_lt.2 h_due), List.append_nil]

/-- Once the flush does not wait any more, no job comes to anything more in time. -/
theorem endings_of_over {m : Move C} {u : State C} {fs : List (Event C)}
    (h : LoneCall cfg env s₀ due ms t es) (h_step : Transition cfg env t m u fs)
    (h_over : ∀ f, t.current = some f → ¬ f.Requesting ∧ f.join.isOver = true) :
    endings (s₀.flushes + 1) due (es ++ stamp t.now fs) = endings (s₀.flushes + 1) due es := by
  by_cases h_late : Late (s₀.flushes + 1) (history es)
  · exact endings_of_due _ fs (h.due_le_of_late h_late)
  · have h_none : fs.filterMap (Event.ending? (s₀.flushes + 1)) = [] := by
      refine List.filterMap_eq_nil_iff.2 fun e h_e => by_contra fun h_ending => h_late ?_
      obtain ⟨job, h_job, h_flush⟩ := h_step.of_ending h_e h_ending
      obtain ⟨f, h_f⟩ := h.inProgress_of_job h_late h_job
      obtain ⟨h_stage, h_isOver⟩ := h_over f h_f
      rw [← (h.number h_f).1] at h_flush ⊢
      exact (h.consistent.joined f h_f).late (h.consistent.counted f h_f) h_stage h_isOver h_job
        h_flush
    rw [endings_append, endings_stamp, h_none, ite_self, List.append_nil]

/-! ## Slots in time -/

/-- The slot of a job that does not settle stays pending, unless the flush gives up. -/
theorem pending_stays {m : Move C} {u : State C} {fs : List (Event C)}
    (h : LoneCall cfg env s₀ due ms t es)
    (h_after : LoneCall cfg env s₀ due (ms ++ [m]) u (es ++ stamp t.now fs))
    (h_f : t.current = some f) (h_f' : u.current = some f') (h_step : Transition cfg env t m u fs)
    {job job' : CompileJob C} (h_job : job ∈ t.jobs) (h_job' : job' ∈ u.jobs)
    (h_id : job.id = job'.id) (h_key : job.key = job'.key)
    (h_open : ∀ outcome, job'.phase ≠ .settled outcome)
    (h_pending : t.store.slot? job'.key = some .pending) :
    u.store.slot? job'.key = some .pending ∨
      Late (s₀.flushes + 1) (history (es ++ stamp t.now fs)) := by
  have h_flush := h.fresh.job_flush h_job
  cases h_step.slotChange with
  | still h_slots => exact .inl ((h_slots _).trans h_pending)
  | scheduled _ _ _ h_slots =>
    rw [h_slots]
    split
    · exact .inl rfl
    · exact .inl h_pending
  | @settled other result h_other _ h_slots h_es =>
    rw [h_slots, if_neg]
    · exact .inl h_pending
    · -- The job of this task is the only one, and it would have settled now.
      rintro ⟨h_same, -⟩
      have h_separate := separate_of_run h.rested h.reached
      have h_one := h_separate.keys job h_job other h_other
        (h_flush.trans (h.fresh.job_flush h_other).symm) (h_key.trans h_same)
      have h_e : Event.slotSettled other.flush job'.id other.key (jobContent other result)
          (t.store.isPending other.key) ∈ history (es ++ stamp t.now fs) := by
        rw [history_append, history_stamp, h_es, ← h_id, h_one]
        exact List.mem_append_right _ (List.mem_singleton_self _)
      exact (h_after.filed job'.id).unsettled_of_open h_after.consistent.numbered h_job' rfl h_open
        h_e
  | @polled f₁ found _ h_f₁ _ _ h_poll h_slots h_es =>
    obtain rfl := Option.some.inj (h_f₁.symm.trans h_f)
    rw [h_slots, history_append, history_stamp, h_es]
    rcases poll_cases h_poll with ⟨_, rfl, -⟩ | ⟨rfl, -⟩ | ⟨rfl, -, -, h_gone⟩
    · exact .inl h_pending
    · rw [← (h.number h_f).1]
      exact .inr ⟨_, _, List.mem_append_right _ (List.mem_singleton_self _)⟩
    · -- There is a job that can report, so the flush goes on waiting for it.
      have h_reporter : t.hasReporter f₁.number = true := by
        refine List.any_eq_true.2 ⟨job, h_job, ?_⟩
        rw [h_flush, (h.number h_f).1]
        exact beq_self_eq_true _
      simp [h_reporter] at h_gone
  | cleared h_idle => simp [h_f'] at h_idle

/-- A compile job that has not settled finds its slot pending, unless the flush has given up. -/
theorem pending_of_open (h : LoneCall cfg env s₀ due ms t es) (h_f : t.current = some f)
    {job : CompileJob C} (h_job : job ∈ t.jobs)
    (h_open : ∀ outcome, job.phase ≠ .settled outcome) :
    t.store.slot? job.key = some .pending ∨ Late (s₀.flushes + 1) (history es) := by
  refine h.induction (P := fun t es => ∀ f, t.current = some f → ∀ job ∈ t.jobs,
    (∀ outcome, job.phase ≠ .settled outcome) →
      t.store.slot? job.key = some .pending ∨ Late (s₀.flushes + 1) (history es))
    ?_ ?_ f h_f job h_job h_open
  · intro u fs h_flush f h_f job h_job
    cases h_flush <;> simp [h.rested.jobs] at h_job
  · intro ms m t es u fs h_call h_after _ h_before h_step f' h_f' job' h_job' h_open
    rcases h_step.open_origin h_call.consistent.numbered h_job' h_open with
      ⟨n, j, h_new⟩ | ⟨job, h_old, h_id, h_key, h_still⟩
    · obtain ⟨_, _, _, -, -, -, -, -, -, h_pending, -⟩ := h_step.of_scheduled h_new
      exact .inl h_pending
    · obtain ⟨f, h_f⟩ := h_after.fresh.inProgress h_step h_f'
      rcases h_before f h_f job h_old h_still with h_pending | h_late
      · rw [h_key] at h_pending
        exact h_call.pending_stays h_after h_f h_f' h_step h_old h_job' h_id h_key h_open h_pending
      · rw [history_append]
        exact .inr (h_late.append_left _)

/-- A job that settles before the deadline finds its slot pending. -/
theorem changed_of_early (h : LoneCall cfg env s₀ due ms t es) {moment : Moment} {n j : Nat}
    {key : TaskId} {content : Slot (Artifact C)} {changed : Bool}
    (h_e : (moment, Event.slotSettled n j key content changed) ∈ es) (h_early : moment < due) :
    changed = true := by
  refine h.induction (P := fun _ es => ∀ moment n j key content changed,
    (moment, Event.slotSettled n j key content changed) ∈ es → moment < due → changed = true)
    ?_ ?_ _ _ _ _ _ _ h_e h_early
  · intro u fs h_flush moment n j key content changed h_e
    obtain ⟨e, h_e, h_eq⟩ := List.mem_map.1 h_e
    obtain ⟨-, rfl⟩ := Prod.mk.inj h_eq
    cases h_flush <;> simp at h_e
  · intro ms m t es u fs h_call _ _ h_before h_step moment n j key content changed h_e h_early
    rcases List.mem_append.1 h_e with h_old | h_new
    · exact h_before _ _ _ _ _ _ h_old h_early
    · obtain ⟨e, h_e, h_eq⟩ := List.mem_map.1 h_new
      obtain ⟨rfl, rfl⟩ := Prod.mk.inj h_eq
      obtain ⟨job, h_job, result, h_phase, -, -, rfl, -, h_changed⟩ := h_step.of_settled h_e
      have h_onTime : ¬ Late (s₀.flushes + 1) (history es) := fun h_late =>
        Nat.not_le.2 h_early (h_call.due_le_of_late h_late)
      obtain ⟨f, h_f⟩ := h_call.inProgress_of_job h_onTime h_job
      rw [← h_changed, ArtifactStore.isPending_iff]
      exact (h_call.pending_of_open h_f h_job (by simp [h_phase])).resolve_right h_onTime

/-- An artifact that a job has come to before the deadline stands in its slot. -/
theorem ready_of_ending (h : LoneCall cfg env s₀ due ms t es) (h_f : t.current = some f) {j : Nat}
    {key : TaskId} {artifact : Artifact C}
    (h_ending : .settled j key (.ready artifact) ∈ endings (s₀.flushes + 1) due es) :
    t.store.slot? key = some (.ready artifact) := by
  obtain ⟨moment, changed, h_e, h_early⟩ := mem_endings_settled.1 h_ending
  obtain rfl := h.changed_of_early h_e h_early
  have h_settled := List.mem_map_of_mem (f := Prod.snd) h_e
  have h_origin := h.fresh.origin h_f key
  generalize t.store.slot? key = slot at h_origin
  cases h_origin with
  | absent _ _ h_unsettled | kept _ _ h_unsettled =>
    exact absurd h_settled (h_unsettled _ _ _)
  | awaited _ _ h_writer =>
    exact absurd h_settled (unsettled_of_writer?_eq_none h_writer _ _ _)
  | written _ _ _ h_content _ h_once =>
    obtain rfl := h_once _ _ _ h_settled
    exact h_content.symm

/-- The job that has written an artifact into its slot has done so before the deadline. -/
theorem ending_of_writer (h : LoneCall cfg env s₀ due ms t es) {e : Event C} {key : TaskId}
    {artifact : Artifact C}
    (h_writer : writer? key (history es) = some e)
    (h_content : e.written? = some (.ready artifact)) :
    ∃ j, .settled j key (.ready artifact) ∈ endings (s₀.flushes + 1) due es := by
  obtain ⟨h_writes, past, later, h_split, h_first⟩ := List.find?_eq_some_iff_append.1 h_writer
  cases e with
  | slotSettled n j k content changed =>
    obtain ⟨rfl, rfl⟩ : changed = true ∧ k = key := by simpa [Event.writes] using h_writes
    obtain rfl := Option.some.inj h_content
    obtain ⟨before, rest, rfl, rfl, h_rest⟩ := List.map_eq_append_iff.1 h_split
    obtain ⟨⟨moment, e⟩, after, rfl, rfl, -⟩ := List.map_eq_cons_iff.1 h_rest
    have h_e : (moment, Event.slotSettled n j k (.ready artifact) true) ∈
        before ++ (moment, Event.slotSettled n j k (.ready artifact) true) :: after :=
      List.mem_append_right _ (List.mem_cons_self ..)
    have h_scheduled := (h.filed j).scheduled_of_settled (List.mem_map_of_mem (f := Prod.snd) h_e)
    obtain rfl := h.fresh.scheduled_flush h_scheduled
    refine ⟨j, mem_endings_settled.2 ⟨moment, true, h_e, ?_⟩⟩
    -- If the flush had given up before, that would have written to the slot.
    refine (h.timely _ _ _ rfl (by simp [Event.ending?])).resolve_right ?_
    rintro ⟨waited, join, h_polled⟩
    simpa [Event.writes, Polled.slotMessage?] using h_first _ h_polled
  | polled n found join =>
    cases h_message : found.slotMessage? <;> simp [Event.written?, h_message] at h_content
  | _ => simp [Event.writes] at h_writes

/-- The endings tell which slots hold artifacts. -/
theorem supply_eq_some_iff (h : LoneCall cfg env s₀ due ms t es) (h_f : t.current = some f)
    {key : TaskId} {artifact : Artifact C} :
    supply s₀.store.slot? (endings (s₀.flushes + 1) due es) key = some artifact ↔
      t.store.slot? key = some (.ready artifact) := by
  have h_origin := h.fresh.origin h_f key
  have h_sound {artifact : Artifact C}
      (h_supply : supply s₀.store.slot? (endings (s₀.flushes + 1) due es) key = some artifact) :
      t.store.slot? key = some (.ready artifact) := by
    unfold supply at h_supply
    split at h_supply
    · next kept h_before =>
      cases h_supply
      generalize t.store.slot? key = slot at h_origin
      cases h_origin with
      | kept h_kept => rw [← h_before, h_kept]
      | absent h_none | awaited h_none | written h_none => simp [h_before] at h_none
    · obtain ⟨x, h_x, h_artifact⟩ := List.exists_of_findSome?_eq_some h_supply
      obtain ⟨j, rfl⟩ := Ending.artifact?_eq_some_iff.1 h_artifact
      exact h.ready_of_ending h_f h_x
  refine ⟨h_sound, fun h_slot => ?_⟩
  rw [h_slot] at h_origin
  suffices h_some :
      ∃ a, supply s₀.store.slot? (endings (s₀.flushes + 1) due es) key = some a by
    obtain ⟨a, h_supply⟩ := h_some
    have h_same := (h_sound h_supply).symm.trans h_slot
    cases h_same
    exact h_supply
  cases h_origin with
  | kept h_before => exact ⟨artifact, by simp [supply, h_before]⟩
  | written h_before _ h_writer h_content =>
    obtain ⟨j, h_ending⟩ := h.ending_of_writer h_writer h_content
    have h_found : ((endings (s₀.flushes + 1) due es).findSome? (·.artifact? key)).isSome :=
      List.findSome?_isSome_iff.2 ⟨_, h_ending, by simp [Ending.artifact?]⟩
    obtain ⟨a, h_a⟩ := Option.isSome_iff_exists.1 h_found
    exact ⟨a, by simpa [supply, h_before] using h_a⟩

end LoneCall

end State

end KernelDispatch
