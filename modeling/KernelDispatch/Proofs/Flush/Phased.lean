/-
  KernelDispatch.Proofs.Flush.Phased

  Calls of `flush` in two phases.

  A flush in two phases submits its launch jobs when its wait for the compile jobs is
  over and no slot is pending any more. So what becomes of its records is decided by the
  artifacts in the store (`PhasedCall.doneAs`). In the end all records are done, or
  the flush is abandoned and nothing has run (`PhasedCall.finishes`).
-/
import KernelDispatch.Proofs.Flush.Leaving
import KernelDispatch.Proofs.Flush.Modes
import KernelDispatch.Proofs.Flush.Stock

namespace KernelDispatch.State

variable {C : Type} {cfg : Settings} {env : Environment C} {s s₀ t u : State C} {f f' : Flush C}
  {m : Move C} {ms : List (Move C)} {es : List (Stamped C)} {fs : List (Event C)}

/-- A call of `flush` in two phases with nothing left over from earlier ones, all of whose deadlines
the clock can represent. -/
structure PhasedCall (cfg : Settings) (env : Environment C) (s₀ : State C) (ms : List (Move C))
    (t : State C) (es : List (Stamped C)) : Prop extends FreshCall cfg env s₀ ms t es where
  pipelined : cfg.pipelined = false
  joinClock : cfg.compilePatience.deadline? t.now ≠ none
  launchClock : cfg.dispatchPatience.deadline? t.now ≠ none

namespace PhasedCall

theorem before (h : PhasedCall cfg env s₀ ms t es) {ms₁ : List (Move C)} {es₁ : List (Stamped C)}
    (h_call : FreshCall cfg env s₀ ms₁ s es₁) (h_le : s.now ≤ t.now) :
    PhasedCall cfg env s₀ ms₁ s es₁ where
  toFreshCall := h_call
  pipelined := h.pipelined
  joinClock h_none := h.joinClock (deadline?_eq_none_of_le h_none h_le)
  launchClock h_none := h.launchClock (deadline?_eq_none_of_le h_none h_le)

/-! ## Records that are done -/

/-- The slots of the records that are done have settled. -/
theorem settled_of_done (h : PhasedCall cfg env s₀ ms t es) (h_f : t.current = some f)
    {r : Record C} (h_r : r ∈ s₀.backlog.take (t.done f)) :
    ∃ slot, t.store.slot? r.key = some slot ∧ slot.isPending = false := by
  have h_layout := h.consistent.layout.inFlush f h_f
  obtain ⟨h_past, h_stage⟩ := h_layout.pastJoin_of_done h.pipelined fun h_zero => by
    simp [h_zero] at h_r
  have h_key : r.key ∈ f.keys := by
    rw [h_layout.keys_eq h_stage, (h.number h_f).2]
    exact List.mem_map_of_mem (List.mem_of_mem_take h_r)
  obtain ⟨slot, h_slot⟩ := Option.ne_none_iff_exists'.1 (h.known h_f h_key)
  have h_over := (h.consistent.joined f h_f).isOver h_past
  refine ⟨slot, h_slot, ?_⟩
  cases slot with
  | pending => exact absurd h_slot (h.not_pending (h.calm h.joinClock) h_f h_stage h_over r.key)
  | ready | failed => rfl

/-- The launch thread has done with the records that are done what the artifacts in the store
decide. -/
theorem doneAs (h : PhasedCall cfg env s₀ ms t es) (h_f : t.current = some f) :
    DoneAs env t.store.artifact? s₀ t (history es) f := by
  refine h.inFlush_induction (P := fun t es f => cfg.compilePatience.deadline? t.now ≠ none →
    cfg.dispatchPatience.deadline? t.now ≠ none → DoneAs env t.store.artifact? s₀ t (history es) f)
    h_f ?_ ?_ h.joinClock h.launchClock
  · intro _ _
    have h_done : done { s₀ with flushes := s₀.flushes + 1, current := some s₀.firstFlush }
        s₀.firstFlush = 0 := by simp [done, firstFlush, h.rested.lane]
    constructor
    · rw [h_done]
      exact ⟨rfl, .nil⟩
    · rw [h_done]
      exact fun _ => rfl
  · intro ms m t es u fs f f' h_call h_after h_alive h_f h_f' h_before h_step _ h_join h_launch
    have h_now : PhasedCall cfg env s₀ ms t es := by
      refine ⟨h_call, h.pipelined, fun h_none => h_join ?_, fun h_none => h_launch ?_⟩
      · exact deadline?_eq_none_of_le h_none h_step.now_le
      · exact deadline?_eq_none_of_le h_none h_step.now_le
    have h_before := h_before h_now.joinClock h_now.launchClock
    have h_batch : f'.batch = f.batch := (h_after.number h_f').2.trans (h_call.number h_f).2.symm
    rw [history_append, history_stamp]
    cases h_step.recordMove h_call.consistent.layout with
    | onward _ _ h_onward =>
      refine (h_before.congr fun r h_r => ?_).onward h_batch h_alive h_step h_onward
      obtain ⟨slot, h_slot, h_settled⟩ := h_now.settled_of_done h_f h_r
      refine ArtifactStore.artifact?_congr ?_
      rw [h_slot, h_step.slotChange.settled_stays (by simp [h_f']) h_slot h_settled]
    | @launches _ _ job _ _ _ _ _ h_lane h_lane' h_backlog h_ends =>
      have h_flush := h_call.consistent.layout.inFlush f h_f
      have h_job : job ∈ t.lane := h_lane ▸ List.mem_cons_self ..
      obtain ⟨h_own, h_key⟩ := h_flush.own job h_job
      have h_store : u.store = t.store := by cases h_ends <;> rfl
      rw [h_store]
      have h_supply (artifact : Artifact C) : t.store.artifact? job.record.key = some artifact ↔
          t.store.slot? job.key = some (.ready artifact) := by
        rw [h_key, ArtifactStore.artifact?_eq_some_iff]
      have h_ended := h_ends.endsAs h_lane h_lane' h_now.launchClock h_key
        ((supplied_of_run h.rested h_call.reached).holding job h_job) h_supply
      rw [h_own, (h_call.number h_f).1] at h_ended
      exact h_before.closes h_flush (h_call.number h_f).2 h_batch h_alive h_lane h_lane' h_backlog
        h_ended
    | enqueues _ h_idle | begins _ h_idle => simp [h_idle] at h_f
    | ends _ _ _ _ h_idle | abandons _ _ _ h_idle => simp [h_idle] at h_f'
    | unwinds _ _ _ _ _ h_s' => simp [h_s'] at h_f'

/-! ## The end -/

/-- What a call in two phases of a flush of some records has come to, if these are the artifacts for
its records in the end. -/
inductive Finish (cfg : Settings) (env : Environment C) (s₀ : State C)
    (supply : TaskId → Option (Artifact C)) (es : List (Event C)) : Prop
  /-- A compilation has failed, and nothing has run. -/
  | abandoned {first : Failure} {rest : List Failure} (h_onFailure : cfg.onFailure = .abandonFlush)
      (h_failures : compileFailures (s₀.flushes + 1) es = first :: rest)
      (h_launches : launches (s₀.flushes + 1) es = [])
      (h_answers : answers es =
        [.returned (.error (.unfinished s₀.backlog.length s₀.backlog.length first))])
  /-- All records are done. -/
  | ran (h_goesOn : cfg.onFailure = .abandonFlush → compileFailures (s₀.flushes + 1) es = [])
      (h_fated : Fated (env.mute (s₀.flushes + 1)) (s₀.flushes + 1)
        (fates supply s₀.runs s₀.backlog) es)
      (h_supplied : compileFailures (s₀.flushes + 1) es = [] →
        ∀ r ∈ s₀.backlog, ∃ artifact, supply r.key = some artifact)
      (h_answers : answers es = [.returned (resultOf (outlook s₀)
        (compileFailures (s₀.flushes + 1) es)
        (failures (outcomes (verdicts (s₀.flushes + 1) es))))])

/-- A caller that leaves its flush has requested all tasks, and its call has come to one of the
two. -/
theorem finish_of_leaves (h : PhasedCall cfg env s₀ ms t es) (h_f : t.current = some f)
    (h_step : CallerStep cfg env t f u fs) (h_idle : u.current = none) :
    ¬ f.Requesting ∧ Finish cfg env s₀ t.store.artifact? (history es ++ fs) := by
  have h_calm := h.calm h.joinClock
  have h_done := h.doneAs h_f
  have h_failures : compileFailures (s₀.flushes + 1) (history es ++ fs) = f.join.failures := by
    rw [compileFailures_append, compileFailures_of_quiet _ (h_step.quiet_of_leaves h_idle),
      List.append_nil, h.failures_eq h_f]
  cases h.conclusion h_f h_step h_idle with
  | unwound h_deadline => exact absurd h_deadline h.joinClock
  | abandoned h_onFailure h_stage h_none h_failed h_quiet h_answers =>
    refine ⟨h_stage, .abandoned h_onFailure (h_failures.trans h_failed) ?_ h_answers⟩
    have h_fated := h_done.fated.quiet h_quiet
    rw [h_none] at h_fated
    exact h_fated.ran
  | ends h_past h_stage h_all h_quiet h_answers =>
    refine ⟨h_stage, .ran (fun h_onFailure => ?_) ?_ (fun h_none r h_r => ?_) ?_⟩
    · rw [h_failures]
      exact h.unfailed_of_pastJoin h_f h.pipelined h_onFailure h_past
    · have h_fated := h_done.fated.quiet h_quiet
      rwa [h_all, List.take_length] at h_fated
    · have h_over := (h.consistent.joined f h_f).isOver h_past
      have h_key : r.key ∈ f.keys := by
        rw [(h.consistent.layout.inFlush f h_f).keys_eq h_stage, (h.number h_f).2]
        exact List.mem_map_of_mem h_r
      obtain ⟨artifact, h_slot⟩ :=
        h.ready_of_no_failures h_calm h_f h_stage h_over (h_failures.symm.trans h_none) h_key
      exact ⟨artifact, ArtifactStore.artifact?_eq_some_iff.2 h_slot⟩
    · rw [h_failures]
      exact h_answers

/-- What a call has come to stays so. -/
theorem Finish.extend {supply : TaskId → Option (Artifact C)} {es later : List (Event C)}
    (h : Finish cfg env s₀ supply es)
    (h_silent : ∀ e ∈ later, e.isEntry = false ∧ e.isAnswer = false ∧ e.isPoll = false) :
    Finish cfg env s₀ supply (es ++ later) := by
  have h_noEntry : ∀ e ∈ later, e.isEntry = false := fun e h_e => (h_silent e h_e).1
  have h_failures : compileFailures (s₀.flushes + 1) (es ++ later) =
      compileFailures (s₀.flushes + 1) es := by
    rw [compileFailures_append, compileFailures_of_noPoll _ fun e h_e => (h_silent e h_e).2.2,
      List.append_nil]
  have h_same : answers (es ++ later) = answers es := by
    rw [answers_append, answers_of_quiet fun e h_e => (h_silent e h_e).2.1, List.append_nil]
  cases h with
  | abandoned h_onFailure h_failed h_launches h_answers =>
    refine .abandoned h_onFailure (h_failures.trans h_failed) ?_ (h_same.trans h_answers)
    rw [launches_append, h_launches, launches_of_noEntry _ h_noEntry]
    rfl
  | ran h_goesOn h_fated h_supplied h_answers =>
    rw [← h_failures] at h_goesOn h_supplied h_answers
    refine .ran h_goesOn (h_fated.quiet h_noEntry) h_supplied ?_
    rw [h_same, h_answers, verdicts_append, verdicts_of_noEntry _ h_noEntry, List.append_nil]

/-- A call in two phases that is over has come to one of the two, has kept of its artifacts what the
retention allows, and has left nothing enqueued. -/
theorem finishes (h : PhasedCall cfg env s₀ ms t es) (h_some : s₀.backlog ≠ [])
    (h_idle : t.current = none) :
    ∃ store rank, Stock s₀.store (s₀.flushes + 1) (s₀.backlog.map Record.key)
        (published (s₀.flushes + 1) (history es)) store ∧
      t.store = (store.retain cfg.retention rank).2 ∧ t.backlog = [] ∧
      Finish cfg env s₀ store.artifact? (history es) := by
  obtain ⟨s, f, ms₁, es₁, u, fs, later, h_left, h_history⟩ :=
    leftAt_of_call h.layoutBefore h.reached h.noCall h_some h_idle
  have h_call : FreshCall cfg env s₀ ms₁ s es₁ :=
    ⟨h.rested, h.ready, h_left.noCall, h_left.reached⟩
  have h_move : Transition cfg env s .caller u fs := .caller h_left.current h_left.leaves
  have h_s := h.before h_call (Nat.le_trans h_move.now_le h_left.since.now_le)
  obtain ⟨h_stage, h_finish⟩ := h_s.finish_of_leaves h_left.current h_left.leaves h_left.idle
  have h_calm : Calm fs := by
    have h_all := h.calm h.joinClock
    rw [h_history] at h_all
    exact h_all.of_append.1.of_append.2
  obtain ⟨h_backlog, h_store⟩ := h_left.leaves.retained h_left.idle h_calm
  -- Only artifacts are left, so no compile job settles a slot any more.
  have h_ready : AllReady u := (h_left.leaves.leaves h_left.idle).resolve_left (h_calm _)
  obtain ⟨h_kept, h_unchanged⟩ := h_left.since.store h_ready
  refine ⟨s.store, env.rank f.number, ?_, h_kept.trans h_store,
    h_left.since.backlog.trans h_backlog, ?_⟩
  · have h_stock := h_call.stock h_left.current
    rw [(h_call.consistent.layout.inFlush f h_left.current).keys_eq h_stage,
      (h_call.number h_left.current).2] at h_stock
    rw [h_history, published_append, published_append,
      published_of_quiet _ (h_left.leaves.quiet_of_leaves h_left.idle),
      published_of_unchanged _ h_unchanged, List.append_nil, List.append_nil]
    exact h_stock
  · rw [h_history]
    exact h_finish.extend h_left.since.silent

end PhasedCall

end KernelDispatch.State
