/-
  KernelDispatch.Proofs.Flush.Leaving

  Calls of `flush` that are over.

  A call that is over has left its flush by one move of the caller, and since then
  only compile workers have moved (`leftAt_of_call`). They answer nothing, run nothing
  and find no pending slot, so what the caller has left is still there (`Idled`).
-/
import KernelDispatch.Proofs.Flush.Builds
import KernelDispatch.Proofs.Flush.Requests
import KernelDispatch.Proofs.Flush.Shortfall

namespace KernelDispatch

/-- The result of a flush that makes this report, with the failures of its wait and of its launch
jobs. -/
def resultOf (report : Report) (joined launched : List Failure) : Except Failure Report :=
  match joined ++ launched with
  | [] => .ok report
  | first :: _ => .error (.unfinished launched.length report.records first)

namespace State

variable {C : Type} {cfg : Settings} {env : Environment C} {s s₀ t u v : State C} {f : Flush C}
  {m : Move C} {ms : List (Move C)} {es : List (Stamped C)} {fs : List (Event C)}

/-! ## Between flushes -/

/-- Between flushes nothing happens that a caller could see. -/
theorem Transition.silent_of_idle (h_layout : Layout cfg t) (h_idle : t.current = none)
    (h_noCall : m.isCall = false) (h_step : Transition cfg env t m u fs) :
    ∀ e ∈ fs, e.isEntry = false ∧ e.isAnswer = false := by
  cases h_step with
  | enqueue | dropArtifacts | returns | begins => simp [Move.isCall] at h_noCall
  | caller h_current => simp [h_idle] at h_current
  | launcher h_lane => simp [h_layout.idle h_idle] at h_lane
  | worker _ _ h_step => cases h_step <;> simp [Event.isEntry, Event.isAnswer]
  | pick | tick => simp

/-- Between flushes no compile job of a flush comes, and none is started if there is none. -/
theorem Transition.noJob_of_idle {n : Nat} (h_step : Transition cfg env t m u fs)
    (h_idle : t.current = none) (h_gone : ∀ job ∈ t.jobs, job.flush ≠ n) :
    (∀ job ∈ u.jobs, job.flush ≠ n) ∧
      ∀ worker key call, Event.codegenCalled n worker key call ∉ fs := by
  constructor
  · intro job h_job
    rcases h_step.job_origin h_job with ⟨old, h_old, -, h_flush, -⟩ | ⟨-, f, _, _, h_f, -⟩
    · exact h_flush ▸ h_gone old h_old
    · simp [h_idle] at h_f
  · intro worker key call h_e
    obtain ⟨-, job, h_job, h_flush, -⟩ := h_step.of_called h_e
    exact h_gone job h_job h_flush

/-- Between flushes no slot settles if all hold artifacts. -/
theorem Transition.store_of_idle (h_step : Transition cfg env t m u fs) (h_idle : t.current = none)
    (h_noCall : m.isCall = false) (h_ready : AllReady t) :
    u.store = t.store ∧ ∀ n j key content, Event.slotSettled n j key content true ∉ fs := by
  cases h_step with
  | enqueue | dropArtifacts | returns | begins => simp [Move.isCall] at h_noCall
  | caller h_current => simp [h_idle] at h_current
  | launcher _ h_step => cases h_step <;> exact ⟨rfl, by simp⟩
  | @worker _ _ job _ _ _ _ h_step =>
    have h_settled (content : Slot (Artifact C)) :
        t.store.settle job.key content = (false, t.store) := by
      rw [ArtifactStore.settle, if_neg]
      intro h_pending
      cases h_ready _ _ (ArtifactStore.isPending_iff.1 h_pending)
    cases h_step with
    | settles => simp [h_settled]
    | _ => exact ⟨rfl, by simp⟩
  | pick | tick => exact ⟨rfl, by simp⟩

/-- A dispatcher has gone on without its caller, from one moment between flushes to another. -/
structure Idled (u t : State C) (fs : List (Event C)) : Prop where
  idle : t.current = none
  backlog : t.backlog = u.backlog
  now_le : u.now ≤ t.now
  silent : ∀ e ∈ fs, e.isEntry = false ∧ e.isAnswer = false ∧ e.isPoll = false
  store : AllReady u → t.store = u.store ∧ ∀ n j key content, .slotSettled n j key content true ∉ fs
  noJob : ∀ n, (∀ job ∈ u.jobs, job.flush ≠ n) → (∀ job ∈ t.jobs, job.flush ≠ n) ∧
    ∀ worker key call, .codegenCalled n worker key call ∉ fs

theorem Idled.refl (h_idle : u.current = none) : Idled u u ([] : List (Event C)) where
  idle := h_idle
  backlog := rfl
  now_le := Nat.le_refl _
  silent := by simp
  store := by simp
  noJob := by simp

theorem Idled.step (h : Idled u t fs) (h_layout : Layout cfg t) (h_noCall : m.isCall = false)
    {es : List (Event C)} (h_step : Transition cfg env t m v es) : Idled u v (fs ++ es) where
  idle := h_step.idle_of_noCall h.idle h_noCall
  backlog := by
    rw [← h.backlog]
    cases h_step with
    | enqueue | dropArtifacts | returns | begins => simp [Move.isCall] at h_noCall
    | caller h_current => simp [h.idle] at h_current
    | worker _ _ h_step => exact h_step.samePlan.backlog
    | launcher _ h_step => exact h_step.plan.1
    | pick | tick => rfl
  now_le := Nat.le_trans h.now_le h_step.now_le
  silent e h_e := by
    rcases List.mem_append.1 h_e with h_old | h_new
    · exact h.silent e h_old
    · obtain ⟨h_entry, h_answer⟩ := h_step.silent_of_idle h_layout h.idle h_noCall e h_new
      refine ⟨h_entry, h_answer, ?_⟩
      cases e with
      | polled =>
        obtain ⟨_, _, h_current, -⟩ := h_step.of_polled h_new
        simp [h.idle] at h_current
      | _ => rfl
  store h_ready := by
    obtain ⟨h_store, h_old⟩ := h.store h_ready
    have h_ready' : AllReady t := by rwa [AllReady, h_store]
    obtain ⟨h_store', h_new⟩ := h_step.store_of_idle h.idle h_noCall h_ready'
    refine ⟨h_store'.trans h_store, fun n j key content h_e => ?_⟩
    rcases List.mem_append.1 h_e with h_e | h_e
    · exact h_old n j key content h_e
    · exact h_new n j key content h_e
  noJob n h_gone := by
    obtain ⟨h_none, h_old⟩ := h.noJob n h_gone
    obtain ⟨h_none', h_new⟩ := h_step.noJob_of_idle h.idle h_none
    refine ⟨h_none', fun worker key call h_e => ?_⟩
    rcases List.mem_append.1 h_e with h_e | h_e
    · exact h_old worker key call h_e
    · exact h_new worker key call h_e

/-! ## The end of a call -/

/-- A caller that leaves its flush without a panic leaves nothing enqueued, and in the store what
the retention keeps. -/
theorem CallerStep.retained (h : CallerStep cfg env s f u fs) (h_idle : u.current = none)
    (h_calm : Calm fs) :
    u.backlog = [] ∧ u.store = (s.store.retain cfg.retention (env.rank f.number)).2 := by
  cases h with
  | unwinds => exact absurd (List.mem_singleton_self _) (h_calm overflowMessage)
  | abandons | succeeds | fails => exact ⟨rfl, rfl⟩
  | _ => simp at h_idle

/-- A caller that leaves its flush settles no slot. -/
theorem CallerStep.quiet_of_leaves (h : CallerStep cfg env s f u fs) (h_idle : u.current = none) :
    ∀ e ∈ fs, e.isSettling = false := by
  cases h with
  | unwinds | abandons | succeeds | fails => simp [Event.isSettling, endedEvent]
  | _ => cases h_idle

/-- A call that began in the state `s₀` and stands at `t` has left its flush `f` in the state `s`
for the state `u`, and its caller has not moved since. -/
structure LeftAt (cfg : Settings) (env : Environment C) (s₀ s : State C) (f : Flush C)
    (ms : List (Move C)) (es₁ : List (Stamped C)) (u : State C) (fs : List (Event C)) (t : State C)
    (later : List (Event C)) : Prop where
  reached : run cfg env s₀ (.flush :: ms) = some (s, es₁)
  noCall : ∀ m ∈ ms, m.isCall = false
  current : s.current = some f
  leaves : CallerStep cfg env s f u fs
  idle : u.current = none
  since : Idled u t later

/-- A call of a flush of some records that is over has left its flush. -/
theorem leftAt_of_call (h_layout : Layout cfg s₀)
    (h_run : run cfg env s₀ (.flush :: ms) = some (t, es)) (h_noCall : ∀ m ∈ ms, m.isCall = false)
    (h_some : s₀.backlog ≠ []) (h_idle : t.current = none) :
    ∃ s f ms₁ es₁ u fs later, LeftAt cfg env s₀ s f ms₁ es₁ u fs t later ∧
      history es = history es₁ ++ fs ++ later := by
  refine flush_induction (P := fun _ t es => t.current = none →
    ∃ s f ms₁ es₁ u fs later, LeftAt cfg env s₀ s f ms₁ es₁ u fs t later ∧
      history es = history es₁ ++ fs ++ later) h_run h_noCall ?_ ?_ h_idle
  · intro u fs h_flush h_idle
    cases h_flush with
    | returns _ h_empty => exact absurd h_empty h_some
    | begins => cases h_idle
  · intro ms m t es v fs h_reached h_past h_moves _ h_before h_step h_idle
    rw [history_append, history_stamp]
    cases h_current : t.current with
    | some f =>
      refine ⟨t, f, ms, es, v, fs, [], ⟨h_reached, h_past, h_current, ?_, h_idle, .refl h_idle⟩,
        (List.append_nil _).symm⟩
      exact h_step.caller_of_leaves h_current h_idle
    | none =>
      obtain ⟨s, f, ms₁, es₁, u, fs₁, later, h_left, h_history⟩ := h_before h_current
      have h_since := h_left.since.step (h_layout.of_run h_reached) h_moves h_step
      refine ⟨s, f, ms₁, es₁, u, fs₁, later ++ fs, ⟨h_left.reached, h_left.noCall,
        h_left.current, h_left.leaves, h_left.idle, h_since⟩, ?_⟩
      rw [h_history, List.append_assoc]

/-- A call of a flush of nothing returns at once. -/
theorem idled_of_empty (h_layout : Layout cfg s₀)
    (h_run : run cfg env s₀ (.flush :: ms) = some (t, es)) (h_noCall : ∀ m ∈ ms, m.isCall = false)
    (h_empty : s₀.backlog = []) :
    ∃ later, Idled s₀ t later ∧ history es = .returned (.ok {}) :: later := by
  refine flush_induction (P := fun _ t es =>
    ∃ later, Idled s₀ t later ∧ history es = .returned (.ok {}) :: later) h_run h_noCall ?_ ?_
  · intro u fs h_flush
    cases h_flush with
    | returns h_idle => exact ⟨[], .refl h_idle, rfl⟩
    | begins _ h_some => exact absurd h_empty h_some
  · intro ms m t es v fs h_prefix _ h_moves _ h_before h_step
    obtain ⟨later, h_idled, h_history⟩ := h_before
    refine ⟨later ++ fs, h_idled.step (h_layout.of_run h_prefix) h_moves h_step, ?_⟩
    rw [history_append, history_stamp, h_history, List.cons_append]

/-- How the caller leaves the flush of a call with nothing left over from earlier ones. -/
inductive Conclusion (cfg : Settings) (s₀ s : State C) (f : Flush C) (es fs : List (Event C)) :
    Prop
  /-- The clock cannot represent the deadline of the wait. -/
  | unwound (h_deadline : cfg.compilePatience.deadline? s.now = none)
  /-- A compilation has failed, and no record is done. -/
  | abandoned {first : Failure} {rest : List Failure} (h_onFailure : cfg.onFailure = .abandonFlush)
      (h_stage : ¬ f.Requesting) (h_none : s.done f = 0)
      (h_failures : f.join.failures = first :: rest) (h_quiet : ∀ e ∈ fs, e.isEntry = false)
      (h_answers : answers (es ++ fs) =
        [.returned (.error (.unfinished s₀.backlog.length s₀.backlog.length first))])
  /-- All records are done. -/
  | ends (h_past : f.PastJoin cfg) (h_stage : ¬ f.Requesting)
      (h_all : s.done f = s₀.backlog.length) (h_quiet : ∀ e ∈ fs, e.isEntry = false)
      (h_answers : answers (es ++ fs) = [.returned (resultOf (outlook s₀) f.join.failures
        (failures (outcomes (verdicts (s₀.flushes + 1) (es ++ fs)))))])

namespace FreshCall

/-- A flush all of whose launch jobs are done ends with the result that they and its wait make. -/
theorem ends_of_draining (h : FreshCall cfg env s₀ ms t es) (h_f : t.current = some f)
    (h_draining : f.stage = .draining) (h_lane : t.lane = [])
    (h_quiet : ∀ e ∈ fs, e.isEntry = false) (h_answers : answers fs = [.returned (result f)]) :
    Conclusion cfg s₀ t f (history es) fs := by
  obtain ⟨h_number, h_batch⟩ := h.number h_f
  have h_stage : ¬ f.Requesting := by simp [Flush.Requesting, h_draining]
  have h_stages := (h.consistent.layout.inFlush f h_f).stage
  simp only [StageLayout, h_draining] at h_stages
  refine .ends (by simp [Flush.PastJoin, h_draining]) h_stage ?_ h_quiet ?_
  · simp [done, h_lane, h_stages.2, h_batch]
  · have h_posted := h.consistent.recorded.posted f h_f
    rw [h_number] at h_posted
    rw [answers_append, unanswered_of_call h.layoutBefore h.reached h.noCall h_f, h_answers,
      verdicts_append, verdicts_of_noEntry _ h_quiet, List.append_nil, ← h_posted,
      ← h.report_eq h_f h_stage]
    rfl

/-- A flush of nothing returns at once and does nothing. -/
theorem returned_of_empty (h : FreshCall cfg env s₀ ms t es) (h_empty : s₀.backlog = []) :
    t.backlog = [] ∧ t.store = s₀.store ∧ answers (history es) = [.returned (.ok {})] ∧
      ∀ e ∈ history es, e.isEntry = false ∧ e.isPoll = false := by
  obtain ⟨later, h_idled, h_history⟩ :=
    idled_of_empty h.layoutBefore h.reached h.noCall h_empty
  rw [h_history]
  refine ⟨h_idled.backlog.trans h_empty, (h_idled.store h.ready).1, ?_, ?_⟩
  · have h_none := answers_of_quiet fun e h_e => (h_idled.silent e h_e).2.1
    rw [← List.singleton_append, answers_append, h_none]
    rfl
  · rintro e (_ | ⟨_, h_e⟩)
    · exact ⟨rfl, rfl⟩
    · exact ⟨(h_idled.silent e h_e).1, (h_idled.silent e h_e).2.2⟩

/-- The caller leaves a flush in one of three ways. -/
theorem conclusion (h : FreshCall cfg env s₀ ms t es) (h_f : t.current = some f)
    (h_step : CallerStep cfg env t f u fs) (h_idle : u.current = none) :
    Conclusion cfg s₀ t f (history es) fs := by
  cases h_step with
  | unwinds _ h_deadline => exact .unwound h_deadline
  | abandons h_stage _ h_pipelined h_onFailure h_failures =>
    have h_layout := h.consistent.layout.inFlush f h_f
    have h_none : t.done f = 0 := by
      by_contra h_some
      have h_past := (h_layout.pastJoin_of_done h_pipelined h_some).1
      simp [Flush.PastJoin, h_stage] at h_past
    refine .abandoned h_onFailure (by simp [Flush.Requesting, h_stage]) h_none h_failures
      (by simp [Event.isEntry, endedEvent]) ?_
    rw [answers_append, unanswered_of_call h.layoutBefore h.reached h.noCall h_f,
      h_layout.report.2, (h.number h_f).2]
    rfl
  | succeeds h_stage h_lane h_result | fails h_stage h_lane h_result =>
    refine h.ends_of_draining h_f h_stage h_lane (by simp [Event.isEntry, endedEvent]) ?_
    rw [h_result]
    rfl
  | _ => cases h_idle

end FreshCall

end State

end KernelDispatch
