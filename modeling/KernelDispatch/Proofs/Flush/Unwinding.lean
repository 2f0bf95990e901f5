/-
  KernelDispatch.Proofs.Flush.Unwinding

  What is left of a flush when its caller goes on to something else.

  A flush that comes to its end leaves nothing but artifacts in the store. A flush
  that panics leaves its pending slots behind, but the clock that could not
  represent its deadline cannot represent any later one either, so from then on
  every flush panics before it launches anything (`stuck_of_run`). Without a panic,
  all slots hold artifacts between flushes (`ready_when_idle_of_run`).
-/
import KernelDispatch.Proofs.Flush.Records
import KernelDispatch.Proofs.Flush.Slots

namespace KernelDispatch

variable {C : Type} {cfg : Settings} {env : Environment C}

/-- A flush that has not requested all its tasks. -/
def Flush.Requesting (f : Flush C) : Prop :=
  ∃ rest, f.stage = .requesting rest

/-- Whether an event is a poll. -/
def Event.isPoll : Event C → Bool
  | polled .. => true
  | _ => false

/-- No caller has panicked. -/
def Calm (es : List (Event C)) : Prop :=
  ∀ message, Event.unwound message ∉ es

theorem Calm.of_append {es fs : List (Event C)} (h : Calm (es ++ fs)) : Calm es ∧ Calm fs :=
  ⟨fun message h_e => h message (List.mem_append_left _ h_e),
    fun message h_e => h message (List.mem_append_right _ h_e)⟩

namespace State

variable {s s' t : State C} {f f' : Flush C} {es fs : List (Event C)}

/-! ## Flushes that request tasks -/

theorem requesting_of_outline_eq (h_outline : f'.outline = f.outline) (h : f'.Requesting) :
    f.Requesting := by
  obtain ⟨rest, h_stage⟩ := h
  have h_same : f'.stage = f.stage := congrArg (fun g => g.stage) h_outline
  exact ⟨rest, h_same ▸ h_stage⟩

/-- A flush does not go back to requesting tasks, and it does not poll before it has done so. -/
theorem CallerStep.requesting (h : CallerStep cfg env s f s' es) (h_f' : s'.current = some f')
    (h_requesting : f'.Requesting) : f.Requesting ∧ ∀ e ∈ es, e.isPoll = false := by
  obtain ⟨rest', h_stage'⟩ := h_requesting
  cases h with
  | schedules h_stage | shares h_stage | reuses h_stage =>
    refine ⟨⟨_, h_stage⟩, ?_⟩
    simp only [List.mem_append, List.mem_map, List.mem_singleton]
    rintro e (⟨_, -, rfl⟩ | rfl) <;> rfl
  | unwinds | abandons | succeeds | fails => cases h_f'
  | beginsJoin h_stage =>
    cases h_f'
    simp only [Flush.joinFrom] at h_stage'
    split at h_stage' <;> cases h_stage'
  | polls h_stage =>
    cases h_f'
    exact absurd (h_stage.symm.trans h_stage') (by simp)
  | submits | submitsNothing | joins | drains | drainsJoined | submitsJoined =>
    cases h_f'
    cases h_stage'

/-- A flush that still requests tasks after a move did so before it, or it has just begun. -/
theorem Transition.requesting {m : Move C} (h : Transition cfg env s m s' es)
    (h_f' : s'.current = some f') (h_requesting : f'.Requesting) :
    (s.current = none ∨ ∃ f, s.current = some f ∧ f.Requesting) ∧
      ∀ e ∈ es, e.isPoll = false := by
  cases h with
  | enqueue h_idle | dropArtifacts h_idle => exact ⟨.inl h_idle, by simp⟩
  | returns h_idle | begins h_idle => exact ⟨.inl h_idle, by simp [Event.isPoll]⟩
  | pick | tick => exact ⟨.inr ⟨f', h_f', h_requesting⟩, by simp⟩
  | caller h_current h_step =>
    obtain ⟨h_before, h_quiet⟩ := h_step.requesting h_f' h_requesting
    exact ⟨.inr ⟨_, h_current, h_before⟩, h_quiet⟩
  | worker h_running h_job h_step =>
    obtain ⟨f, h_f, h_outline⟩ := exists_flush_of_outline_eq h_step.samePlan.current h_f'
    refine ⟨.inr ⟨f, h_f, requesting_of_outline_eq h_outline h_requesting⟩, ?_⟩
    cases h_step <;> simp [Event.isPoll]
  | launcher h_lane h_step =>
    obtain ⟨f, h_f, h_outline⟩ := exists_flush_of_outline_eq h_step.plan.2.2 h_f'
    refine ⟨.inr ⟨f, h_f, requesting_of_outline_eq h_outline h_requesting⟩, ?_⟩
    cases h_step <;> simp [Event.isPoll]

/-! ## After a panic -/

/-- The clock cannot represent a deadline any more, and no flush gets as far as launching. -/
structure Stuck (cfg : Settings) (s : State C) : Prop where
  clock : cfg.compilePatience.deadline? s.now = none
  lane : s.lane = []
  requesting : ∀ f, s.current = some f → f.Requesting

theorem Stuck.of_outline_eq (h : Stuck cfg s) (h_now : s.now ≤ s'.now) (h_lane : s'.lane = s.lane)
    (h_current : s'.current.map Flush.outline = s.current.map Flush.outline) : Stuck cfg s' where
  clock := deadline?_eq_none_of_le h.clock h_now
  lane := h_lane.trans h.lane
  requesting f' h_f' := by
    obtain ⟨f, h_f, h_outline⟩ := exists_flush_of_outline_eq h_current h_f'
    exact requesting_of_outline_eq h_outline.symm (h.requesting f h_f)

theorem CallerStep.stuck (h_current : s.current = some f) (h : Stuck cfg s)
    (h_step : CallerStep cfg env s f s' es) : Stuck cfg s' := by
  -- In the requesting stage the caller requests, or it panics for want of a deadline.
  obtain ⟨rest', h_stage'⟩ := h.requesting f h_current
  cases h_step with
  | schedules | shares | reuses =>
    refine ⟨h.clock, h.lane, ?_⟩
    rintro f' ⟨rfl⟩
    exact ⟨_, rfl⟩
  | unwinds => exact ⟨h.clock, h.lane, fun f' h_f' => by cases h_f'⟩
  | beginsJoin h_stage h_deadline => simp [h.clock] at h_deadline
  | submits h_stage | submitsNothing h_stage | joins h_stage | drains h_stage | polls h_stage
  | drainsJoined h_stage | abandons h_stage | submitsJoined h_stage | succeeds h_stage
  | fails h_stage => exact absurd (h_stage.symm.trans h_stage') (by simp)

theorem Transition.stuck {m : Move C} (h : Stuck cfg s) (h_step : Transition cfg env s m s' es) :
    Stuck cfg s' := by
  cases h_step with
  | enqueue | dropArtifacts | returns | pick => exact ⟨h.clock, h.lane, h.requesting⟩
  | begins =>
    refine ⟨h.clock, h.lane, ?_⟩
    rintro f ⟨rfl⟩
    exact ⟨_, rfl⟩
  | tick => exact h.of_outline_eq (Nat.le_add_right _ _) rfl rfl
  | caller h_current h_step => exact h_step.stuck h_current h
  | worker h_running h_job h_step =>
    have h_same := h_step.samePlan
    refine h.of_outline_eq ?_ h_same.lane h_same.current
    cases h_step <;> exact Nat.le_refl _
  | launcher h_lane => simp [h.lane] at h_lane

/-- A caller that panics leaves the dispatcher stuck. -/
theorem Transition.stuck_of_unwound {m : Move C} {message : String} (h_layout : Layout cfg s)
    (h_step : Transition cfg env s m s' es) (h_unwound : Event.unwound message ∈ es) :
    Stuck cfg s' := by
  obtain ⟨f, -, -, h_lane, -, h_deadline, rfl, -⟩ := h_step.of_unwound h_layout h_unwound
  exact ⟨h_deadline, h_lane, fun f' h_f' => by cases h_f'⟩

/-- After a panic of the caller the dispatcher is stuck. -/
theorem stuck_of_run {threads : Nat} {now : Moment} {ms : List (Move C)} {es : List (Stamped C)}
    {message : String} (h_run : run cfg env (start threads now) ms = some (t, es))
    (h_unwound : Event.unwound message ∈ history es) : Stuck cfg t := by
  refine history_induction (P := fun _ t es => Event.unwound message ∈ es → Stuck cfg t) (by simp)
    ?_ h_run h_unwound
  intro ms m t es u fs h_run _ h_before h_step h_unwound
  rcases List.mem_append.1 h_unwound with h_old | h_new
  · exact h_step.stuck (h_before h_old)
  · exact h_step.stuck_of_unwound (layout_of_run h_run) h_new

/-- As long as there are flushes that get past their requests, no caller has panicked. -/
theorem calm_of_requested {threads : Nat} {now : Moment} {ms : List (Move C)}
    {es : List (Stamped C)} (h_run : run cfg env (start threads now) ms = some (t, es))
    (h_f : t.current = some f) (h_stage : ¬ f.Requesting) : Calm (history es) :=
  fun _ h_unwound => h_stage ((stuck_of_run h_run h_unwound).requesting f h_f)

/-! ## Between flushes -/

/-- Every slot of the store holds an artifact. -/
def AllReady (s : State C) : Prop :=
  ∀ k slot, s.store.slot? k = some slot → slot.isReady = true

theorem SlotChange.allReady (h : SlotChange s s' es) (h_idle : s.current = none)
    (h_ready : AllReady s) : AllReady s' := by
  intro k slot h_slot
  cases h with
  | still h_slots => exact h_ready k slot (h_slots k ▸ h_slot)
  | scheduled h_current | polled h_current => simp [h_idle] at h_current
  | @settled job result h_job h_phase h_slots =>
    -- A job that has outlived its flush finds nothing to settle.
    have h_settled : s.store.isPending job.key = false := by
      cases h_job : s.store.slot? job.key with
      | none => simp [ArtifactStore.isPending, h_job]
      | some slot =>
        have h_slot := h_ready job.key slot h_job
        cases slot <;> simp_all [ArtifactStore.isPending, Slot.isPending, Slot.isReady]
    rw [h_slots, h_settled] at h_slot
    exact h_ready k slot (by simpa using h_slot)
  | cleared h_current h_slots => exact (h_slots k slot h_slot).1

/-- Only the caller leaves its flush. -/
theorem Transition.caller_of_leaves {m : Move C} (h_step : Transition cfg env s m s' es)
    (h_f : s.current = some f) (h_idle : s'.current = none) : CallerStep cfg env s f s' es := by
  cases h_step with
  | caller h_current h_step =>
    obtain rfl := Option.some.inj (h_current.symm.trans h_f)
    exact h_step
  | worker _ _ h_step =>
    have h_same := h_step.samePlan.current
    simp [h_idle, h_f] at h_same
  | launcher _ h_step =>
    have h_same := h_step.plan.2.2
    simp [h_idle, h_f] at h_same
  | begins | enqueue | dropArtifacts | returns | pick | tick => simp_all

/-- A caller that leaves its flush has panicked, or it has left nothing but artifacts. -/
theorem CallerStep.leaves (h : CallerStep cfg env s f s' es) (h_idle : s'.current = none) :
    Event.unwound overflowMessage ∈ es ∨ AllReady s' := by
  cases h with
  | unwinds => exact .inl (List.mem_singleton_self _)
  | abandons | succeeds | fails =>
    exact .inr fun k slot h_slot => (ArtifactStore.slot?_of_retain h_slot).1
  | _ => simp at h_idle

/-- Without a panic of the caller, all slots hold artifacts between flushes. -/
theorem ready_when_idle_of_run {threads : Nat} {now : Moment} {ms : List (Move C)}
    {es : List (Stamped C)} (h_run : run cfg env (start threads now) ms = some (t, es))
    (h_calm : Calm (history es)) (h_idle : t.current = none) : AllReady t := by
  refine history_induction (P := fun _ t es => Calm es → t.current = none → AllReady t) ?_ ?_
    h_run h_calm h_idle
  · intro _ _ k slot h_slot
    simp [start] at h_slot
  · intro ms m t es u fs _ _ h_before h_step h_calm h_idle
    obtain ⟨h_calm_before, h_calm_now⟩ := h_calm.of_append
    have h_change := h_step.slotChange
    -- Between flushes nothing spoils a slot; at the end of a flush only artifacts stay.
    cases h_current : t.current with
    | none => exact h_change.allReady h_current (h_before h_calm_before h_current)
    | some f =>
      exact ((h_step.caller_of_leaves h_current h_idle).leaves h_idle).resolve_left (h_calm_now _)

end State

end KernelDispatch
