/-
  KernelDispatch.Proofs.Flush.Requests

  What a flush reports of the tasks that it requests.

  How a task stands depends on the store as it was before the flush and on the tasks
  that the flush has requested already (`ArtifactStore.standing`). Compile jobs settle
  slots in between, but an entry keeps the flush that has scheduled it, and an artifact
  of an earlier flush stays where it is. So the report that a flush is going to make
  is known when it begins (`Flush.finalReport`), and no move of the call changes it
  (`FreshCall.finalReport_eq`).
-/
import KernelDispatch.Proofs.Flush.Calls

namespace KernelDispatch

variable {C : Type} {cfg : Settings} {env : Environment C}

namespace ArtifactStore

variable {A : Type}

/-! ## Who has scheduled a task -/

/-- The flush that has scheduled a task. -/
def scheduler? (s : ArtifactStore A) (k : TaskId) : Option Nat :=
  (s.find? k).map Entry.scheduledBy

theorem scheduler?_mapEntries (s : ArtifactStore A) (g : Entry A → Entry A)
    (h_key : ∀ e, (g e).key = e.key) (h_same : ∀ e, (g e).scheduledBy = e.scheduledBy)
    (k : TaskId) : (s.mapEntries g h_key).scheduler? k = s.scheduler? k := by
  rw [scheduler?, find?_mapEntries, Option.map_map, show Entry.scheduledBy ∘ g = Entry.scheduledBy
    from funext h_same, scheduler?]

theorem scheduler?_settle (s : ArtifactStore A) (k : TaskId) (content : Slot A) (x : TaskId) :
    (s.settle k content).2.scheduler? x = s.scheduler? x := by
  unfold settle
  split
  · exact scheduler?_mapEntries s _ (fun e => by split <;> rfl) (fun e => by split <;> rfl) x
  · rfl

theorem scheduler?_rejectPending (s : ArtifactStore A) (message : String) (x : TaskId) :
    (s.rejectPending message).2.scheduler? x = s.scheduler? x :=
  scheduler?_mapEntries s _ (Entry.rejectIfPending_key message)
    (fun e => by unfold Entry.rejectIfPending; split <;> rfl) x

/-- The flush that requests a task without an entry schedules it. -/
theorem scheduler?_request (s : ArtifactStore A) (k : TaskId) (n : Nat) (x : TaskId) :
    (s.request k n).2.scheduler? x = (s.scheduler? x).or (if x = k then some n else none) := by
  unfold request
  split
  · next e h =>
    rw [touch, scheduler?_mapEntries s _ _ (fun e => by split <;> rfl)]
    by_cases h_x : x = k
    · simp [scheduler?, h_x, h]
    · simp [h_x]
  · next h =>
    by_cases h_x : x = k
    · simp [scheduler?, find?_add, h_x, h]
    · simp [scheduler?, find?_add, h_x, Ne.symm h_x]

/-! ## How a task stands -/

/-- How a task stands for a flush with a number, if this is the store before the flush and these are
the tasks that it has requested already. -/
def standing (before : ArtifactStore A) (n : Nat) (keys : List TaskId) (key : TaskId) : Standing :=
  match before.find? key with
  | some e => Entry.standing e n
  | none => if key ∈ keys then .shared else .scheduled

/-- The answer to a request tells how the task stood before the flush. -/
theorem request_eq_standing {before s : ArtifactStore A} {n : Nat} {keys : List TaskId}
    {key : TaskId} (h_kept : ∀ slot, before.slot? key = some slot → s.slot? key = some slot)
    (h_scheduler : s.scheduler? key =
      (before.scheduler? key).or (if key ∈ keys then some n else none)) :
    (s.request key n).1 = before.standing n keys key := by
  unfold standing
  cases h_before : before.find? key with
  | some e =>
    have h_slot : s.slot? key = some e.slot := h_kept e.slot (by simp [slot?, h_before])
    have h_by : s.scheduler? key = some e.scheduledBy := by
      simpa [scheduler?, h_before] using h_scheduler
    obtain ⟨e', h_find, h_e'⟩ := Option.map_eq_some_iff.1 h_slot
    have h_e'_by : e'.scheduledBy = e.scheduledBy := by simpa [scheduler?, h_find] using h_by
    rw [request_of_find? n h_find]
    simp only [Entry.standing, h_e', h_e'_by]
  | none =>
    have h_by : s.scheduler? key = if key ∈ keys then some n else none := by
      simpa [scheduler?, h_before] using h_scheduler
    by_cases h_key : key ∈ keys
    · -- The flush does not reuse what it has scheduled itself.
      rw [if_pos h_key] at h_by ⊢
      obtain ⟨e, h_find, h_e⟩ := Option.map_eq_some_iff.1 h_by
      rw [request_of_find? n h_find]
      simp [Entry.standing, h_e]
    · rw [if_neg h_key] at h_by ⊢
      rw [request_eq_scheduled_iff, slot?, Option.map_eq_none_iff]
      exact Option.map_eq_none_iff.1 h_by

end ArtifactStore

/-- Whether an event is about the settling of slots. -/
def Event.isSettling : Event C → Bool
  | slotSettled .. => true
  | polled .. => true
  | _ => false

/-! ## The report -/

namespace Flush

/-- The flush after it has requested the tasks of some more records. -/
def requestAll (before : ArtifactStore (Artifact C)) : Flush C → List (Record C) → Flush C
  | f, [] => f
  | f, r :: rest =>
    requestAll before (f.requested r rest (before.standing f.number f.keys r.key)) rest

/-- The report that a flush is going to make, if this is the store before it. -/
def finalReport (before : ArtifactStore (Artifact C)) (f : Flush C) : Report :=
  match f.stage with
  | .requesting rest => (f.requestAll before rest).report
  | _ => f.report

theorem requestAll_outline (before : ArtifactStore (Artifact C)) (f : Flush C)
    (rs : List (Record C)) :
    (f.requestAll before rs).outline = f.outline.requestAll before rs := by
  induction rs generalizing f with
  | nil => rfl
  | cons r rest ih =>
    rw [requestAll, ih]
    rfl

theorem finalReport_outline (before : ArtifactStore (Artifact C)) (f : Flush C) :
    f.outline.finalReport before = f.finalReport before := by
  cases h_stage : f.stage with
  | requesting rest =>
    have h_report : (f.outline.requestAll before rest).report =
        (f.requestAll before rest).report := by
      rw [← requestAll_outline]
      rfl
    simpa [finalReport, outline, h_stage] using h_report
  | submitting | joining | draining => simp [finalReport, outline, h_stage]

theorem finalReport_of_requested {before : ArtifactStore (Artifact C)} {f : Flush C}
    (h_stage : ¬ f.Requesting) : f.finalReport before = f.report := by
  unfold finalReport
  split
  · next rest h_requesting => exact absurd ⟨rest, h_requesting⟩ h_stage
  · rfl

end Flush

namespace State

variable {s s' s₀ t : State C} {f f' : Flush C} {ms : List (Move C)}
  {es : List (Stamped C)} {fs : List (Event C)}

/-- What a move that neither requests a task nor polls does to the store. -/
inductive Settling (s s' : State C) (fs : List (Event C)) : Prop where
  /-- It leaves the store alone. -/
  | still (h_store : s'.store = s.store) (h_quiet : ∀ e ∈ fs, e.isSettling = false)
  /-- It settles the slot of a compile job. -/
  | settles {job : CompileJob C} {content : Slot (Artifact C)} (h_job : job ∈ s.jobs)
      (h_store : s'.store = (s.store.settle job.key content).2)
      (h_fs : fs = [.slotSettled job.flush job.id job.key content
        (s.store.settle job.key content).1])

theorem Settling.scheduler?_eq (h : Settling s s' fs) (k : TaskId) :
    s'.store.scheduler? k = s.store.scheduler? k := by
  cases h with
  | still h_store => rw [h_store]
  | settles _ h_store => rw [h_store, ArtifactStore.scheduler?_settle]

/-- What a move does to a flush that is in progress before and after it. -/
inductive FlushChange (cfg : Settings) (s : State C) (f : Flush C) (s' : State C) (f' : Flush C)
    (fs : List (Event C)) : Prop where
  /-- It requests the task of a record. -/
  | requests {r : Record C} {rest : List (Record C)}
      (h_stage : f.stage = .requesting (r :: rest))
      (h_f' : f' = f.requested r rest (s.store.request r.key f.number).1)
      (h_store : s'.store = (s.store.request r.key f.number).2)
      (h_quiet : ∀ e ∈ fs, e.isSettling = false)
  /-- It begins to wait for its compile jobs. -/
  | begins {deadline : Moment} (h_stage : f.stage = .requesting [])
      (h_f' : f' = f.joinFrom cfg s.now deadline) (h_store : s'.store = s.store)
      (h_quiet : ∀ e ∈ fs, e.isSettling = false)
  /-- It polls for the outcome of a compile job. -/
  | polls {found : Polled} {inbox : List Outcome} (h_stage : f.stage = .joining)
      (h_over : f.join.isOver = false)
      (h_poll : Polled.poll f.inbox (s.hasReporter f.number) f.joinStart f.joinDeadline s.now
        = some (found, inbox))
      (h_f' : f' = { f with inbox := inbox, join := f.join.note found })
      (h_store : s'.store = storeAfter s.store found)
      (h_fs : fs = [.polled f.number found (f.join.note found)])
  /-- It comes to another stage. In two phases, a flush that abandons its records on a failure
  leaves its wait without one. -/
  | advances {stage : Stage C} (h_stage : ¬ f.Requesting) (h_f' : f' = { f with stage := stage })
      (h_stage' : ¬ f'.Requesting) (h_store : s'.store = s.store)
      (h_quiet : ∀ e ∈ fs, e.isSettling = false)
      (h_past : f'.PastJoin cfg → f.PastJoin cfg ∨ cfg.pipelined = true ∨
        cfg.onFailure = .runOthers ∨ f.join.failures = [])
  /-- Something else moves. -/
  | still (h_outline : f'.outline = f.outline) (h_join : f'.join = f.join)
      (h_settling : Settling s s' fs)

theorem CallerStep.flushChange (h : CallerStep cfg env s f s' fs) (h_f' : s'.current = some f') :
    FlushChange cfg s f s' f' fs := by
  cases h with
  | schedules h_stage h_new =>
    obtain rfl := Option.some.inj h_f'
    refine .requests h_stage ?_ rfl (by simp [Event.isSettling, or_imp, forall_and])
    rw [(ArtifactStore.request_eq_scheduled_iff ..).2 h_new]
  | shares h_stage _ h_answer | reuses h_stage _ h_answer =>
    obtain rfl := Option.some.inj h_f'
    refine .requests h_stage ?_ rfl (by simp [Event.isSettling, or_imp, forall_and])
    rw [h_answer]
  | beginsJoin h_stage =>
    obtain rfl := Option.some.inj h_f'
    exact .begins h_stage rfl rfl (by simp)
  | polls h_stage h_over h_poll =>
    obtain rfl := Option.some.inj h_f'
    exact .polls h_stage h_over h_poll rfl rfl rfl
  | submits h_stage | submitsNothing h_stage =>
    obtain rfl := Option.some.inj h_f'
    refine .advances (by simp [Flush.Requesting, h_stage]) rfl (by simp [Flush.Requesting]) rfl
      (by simp) fun h_past => .inl ?_
    rwa [Flush.PastJoin, h_stage]
  | drains h_stage h_pipelined =>
    obtain rfl := Option.some.inj h_f'
    refine .advances (by simp [Flush.Requesting, h_stage]) rfl (by simp [Flush.Requesting]) rfl
      (by simp [Event.isSettling, joinedEvent]) fun _ => .inl ?_
    rwa [Flush.PastJoin, h_stage]
  | joins h_stage h_pipelined | drainsJoined h_stage _ h_pipelined =>
    obtain rfl := Option.some.inj h_f'
    exact .advances (by simp [Flush.Requesting, h_stage]) rfl (by simp [Flush.Requesting]) rfl
      (by simp [Event.isSettling, joinedEvent]) fun _ => .inr (.inl h_pipelined)
  | submitsJoined h_stage _ _ h_goesOn =>
    obtain rfl := Option.some.inj h_f'
    exact .advances (by simp [Flush.Requesting, h_stage]) rfl (by simp [Flush.Requesting]) rfl
      (by simp) fun _ => .inr (.inr h_goesOn)
  | unwinds | abandons | succeeds | fails => simp [closed] at h_f'

theorem Transition.flushChange {m : Move C} (h_step : Transition cfg env s m s' fs)
    (h_f : s.current = some f) (h_f' : s'.current = some f') :
    FlushChange cfg s f s' f' fs := by
  cases h_step with
  | enqueue | dropArtifacts | returns | begins => simp_all
  | caller h_current h_step =>
    obtain rfl := Option.some.inj (h_current.symm.trans h_f)
    exact h_step.flushChange h_f'
  | pick | tick =>
    obtain rfl := Option.some.inj (h_f'.symm.trans h_f)
    exact .still rfl rfl (.still rfl (by simp))
  | worker _ h_found h_step =>
    cases h_step with
    | settles =>
      obtain rfl := Option.some.inj (h_f'.symm.trans h_f)
      exact .still rfl rfl (.settles (List.mem_of_find?_eq_some h_found) rfl rfl)
    | reports =>
      obtain ⟨f₁, h_f₁, rfl⟩ := Option.map_eq_some_iff.1 h_f'
      obtain rfl := Option.some.inj (h_f₁.symm.trans h_f)
      refine .still ?_ ?_ (.still rfl (by simp [Event.isSettling]))
      · split <;> rfl
      · split <;> rfl
    | _ =>
      obtain rfl := Option.some.inj (h_f'.symm.trans h_f)
      exact .still rfl rfl (.still rfl (by simp [Event.isSettling]))
  | launcher _ h_step =>
    have h_posted {current : Option (Flush C)} {job : LaunchJob C} {outcome : Outcome}
        (h_current : current = some f) (h_some : posted current job outcome = some f')
        (h_store : s'.store = s.store) (h_quiet : ∀ e ∈ fs, e.isSettling = false) :
        FlushChange cfg s f s' f' fs := by
      obtain ⟨f₁, h_f₁, rfl⟩ := Option.map_eq_some_iff.1 h_some
      obtain rfl := Option.some.inj (h_f₁.symm.trans h_current)
      refine .still ?_ ?_ (.still h_store h_quiet)
      · split <;> rfl
      · split <;> rfl
    cases h_step with
    | misses | completes | panics => exact h_posted h_f h_f' rfl (by simp [Event.isSettling])
    | _ =>
      obtain rfl := Option.some.inj (h_f'.symm.trans h_f)
      exact .still rfl rfl (.still rfl (by simp [Event.isSettling]))

/-- The report that a flush of all that is enqueued is going to make. -/
def outlook (s₀ : State C) : Report :=
  s₀.firstFlush.finalReport s₀.store

namespace ReadyCall

/-- Induction along a call of a flush of some records, over the moves after which it is in
progress. -/
theorem inFlush_induction {P : State C → List (Stamped C) → Flush C → Prop}
    (h : ReadyCall cfg env s₀ ms t es) (h_f : t.current = some f)
    (h_first : P { s₀ with flushes := s₀.flushes + 1, current := some s₀.firstFlush }
      (stamp s₀.now [.began (s₀.flushes + 1) s₀.backlog]) s₀.firstFlush)
    (h_next : ∀ {ms m t es u fs f f'}, ReadyCall cfg env s₀ ms t es →
      ReadyCall cfg env s₀ (ms ++ [m]) u (es ++ stamp t.now fs) → t.aborted = false →
      t.current = some f → u.current = some f' → P t es f → Transition cfg env t m u fs →
      FlushChange cfg t f u f' fs → P u (es ++ stamp t.now fs) f') :
    P t es f := by
  refine h.induction (P := fun t es => ∀ f, t.current = some f → P t es f) ?_ ?_ f h_f
  · intro u fs h_flush f h_f
    cases h_flush with
    | returns h_idle => simp [h_idle] at h_f
    | begins =>
      obtain rfl := Option.some.inj h_f
      exact h_first
  · intro ms m t es u fs h_call h_after h_alive h_before h_step f' h_f'
    obtain ⟨f, h_f⟩ := h_after.inProgress h_step h_f'
    exact h_next h_call h_after h_alive h_f h_f' (h_before f h_f) h_step
      (h_step.flushChange h_f h_f')

/-- An entry is from before the flush, or the flush has scheduled it. -/
theorem scheduler?_eq (h : ReadyCall cfg env s₀ ms t es) (h_f : t.current = some f)
    (key : TaskId) :
    t.store.scheduler? key =
      (s₀.store.scheduler? key).or (if key ∈ f.keys then some (s₀.flushes + 1) else none) := by
  refine h.inFlush_induction (P := fun t _ f => t.store.scheduler? key =
    (s₀.store.scheduler? key).or (if key ∈ f.keys then some (s₀.flushes + 1) else none)) h_f ?_ ?_
  · simp [firstFlush]
  · intro ms m t es u fs f f' h_call _ _ h_f _ h_before _ h_change
    cases h_change with
    | @requests r rest _ h_f' h_store =>
      rw [h_store, ArtifactStore.scheduler?_request, h_before, (h_call.number h_f).1, h_f',
        Option.or_assoc]
      congr 1
      by_cases h_old : key ∈ f.keys
      · simp [h_old, Flush.requested]
      · by_cases h_new : key = r.key
        · subst h_new
          simp [h_old, Flush.requested]
        · simp [h_old, h_new, Flush.requested]
    | begins _ h_f' h_store | advances _ h_f' _ h_store =>
      rw [h_store, h_f']
      exact h_before
    | @polls found _ _ _ _ h_f' h_store =>
      have h_same : u.store.scheduler? key = t.store.scheduler? key := by
        rw [h_store, storeAfter]
        split
        · exact ArtifactStore.scheduler?_rejectPending _ _ _
        · rfl
      rw [h_same, h_f', h_before]
    | still h_outline _ h_settling =>
      have h_keys : f'.outline.keys = f.outline.keys := by rw [h_outline]
      have h_keys : f'.keys = f.keys := h_keys
      rw [h_settling.scheduler?_eq, h_keys, h_before]

/-- What the store held before the flush it holds all along. -/
theorem slot?_kept (h : ReadyCall cfg env s₀ ms t es) (h_f : t.current = some f) {key : TaskId}
    {slot : Slot (Artifact C)} (h_before : s₀.store.slot? key = some slot) :
    t.store.slot? key = some slot := by
  have h_origin := h.origin h_f key
  generalize t.store.slot? key = now at h_origin
  cases h_origin with
  | kept h_kept => rw [← h_before, h_kept]
  | absent h_none | awaited h_none | written h_none => simp [h_before] at h_none

/-- The answer to a request of the flush tells how the task stood before it. -/
theorem request_eq (h : ReadyCall cfg env s₀ ms t es) (h_f : t.current = some f) (key : TaskId) :
    (t.store.request key f.number).1 = s₀.store.standing f.number f.keys key := by
  refine ArtifactStore.request_eq_standing (fun _ h_slot => h.slot?_kept h_f h_slot) ?_
  rw [h.scheduler?_eq h_f, (h.number h_f).1]

end ReadyCall

namespace FreshCall

/-- Induction along a call of a flush of some records, over the moves after which it is in
progress. -/
theorem inFlush_induction {P : State C → List (Stamped C) → Flush C → Prop}
    (h : FreshCall cfg env s₀ ms t es) (h_f : t.current = some f)
    (h_first : P { s₀ with flushes := s₀.flushes + 1, current := some s₀.firstFlush }
      (stamp s₀.now [.began (s₀.flushes + 1) s₀.backlog]) s₀.firstFlush)
    (h_next : ∀ {ms m t es u fs f f'}, FreshCall cfg env s₀ ms t es →
      FreshCall cfg env s₀ (ms ++ [m]) u (es ++ stamp t.now fs) → t.aborted = false →
      t.current = some f → u.current = some f' → P t es f → Transition cfg env t m u fs →
      FlushChange cfg t f u f' fs → P u (es ++ stamp t.now fs) f') :
    P t es f :=
  h.readyCall.inFlush_induction h_f h_first fun h_call h_after =>
    h_next (h_call.fresh h.rested) (h_after.fresh h.rested)

/-- The report that the flush is going to make stays the same. -/
theorem finalReport_eq (h : FreshCall cfg env s₀ ms t es) (h_f : t.current = some f) :
    f.finalReport s₀.store = outlook s₀ := by
  refine h.inFlush_induction (P := fun _ _ f => f.finalReport s₀.store = outlook s₀) h_f rfl ?_
  intro ms m t es u fs f f' h_call _ _ h_f _ h_before _ h_change
  rw [← h_before]
  cases h_change with
  | @requests r rest h_stage h_f' =>
    rw [h_f', h_call.readyCall.request_eq h_f]
    simp [Flush.finalReport, h_stage, Flush.requestAll, Flush.requested]
  | begins h_stage h_f' =>
    have h_stage' : ¬ f'.Requesting := by
      rw [h_f']
      rintro ⟨rest, h_requesting⟩
      simp only [Flush.joinFrom] at h_requesting
      split at h_requesting <;> cases h_requesting
    rw [Flush.finalReport_of_requested h_stage', h_f']
    simp [Flush.finalReport, h_stage, Flush.requestAll, Flush.joinFrom]
  | polls h_stage _ _ h_f' =>
    rw [h_f']
    simp [Flush.finalReport, h_stage]
  | advances h_stage h_f' h_stage' =>
    rw [Flush.finalReport_of_requested h_stage, Flush.finalReport_of_requested h_stage', h_f']
  | still h_outline =>
    rw [← Flush.finalReport_outline, h_outline, Flush.finalReport_outline]

/-- The flush makes the report that has been known from its start. -/
theorem report_eq (h : FreshCall cfg env s₀ ms t es) (h_f : t.current = some f)
    (h_stage : ¬ f.Requesting) : f.report = outlook s₀ := by
  rw [← h.finalReport_eq h_f, Flush.finalReport_of_requested h_stage]

/-- The flush waits for the compile jobs that it reports. -/
theorem expected_eq (h : FreshCall cfg env s₀ ms t es) (h_f : t.current = some f)
    (h_stage : ¬ f.Requesting) : f.join.expected = f.report.compiled := by
  refine h.inFlush_induction (P := fun _ _ f =>
    ¬ f.Requesting → f.join.expected = f.report.compiled) h_f ?_ ?_ h_stage
  · exact fun h_stage => absurd ⟨_, rfl⟩ h_stage
  · intro ms m t es u fs f f' _ _ _ _ _ h_before _ h_change h_stage'
    cases h_change with
    | requests _ h_f' =>
      rw [h_f'] at h_stage'
      exact absurd ⟨_, rfl⟩ h_stage'
    | begins _ h_f' => rw [h_f']; rfl
    | polls h_stage _ h_poll h_f' =>
      rw [h_f']
      refine (poll_counts h_poll f.join).1.trans (h_before ?_)
      simp [Flush.Requesting, h_stage]
    | advances h_stage h_f' => rw [h_f']; exact h_before h_stage
    | still h_outline h_join =>
      have h_report : f'.outline.report = f.outline.report := by rw [h_outline]
      have h_report : f'.report = f.report := h_report
      rw [h_join, h_report]
      exact h_before fun h_requesting =>
        h_stage' (requesting_of_outline_eq h_outline.symm h_requesting)

end FreshCall

end State

end KernelDispatch
