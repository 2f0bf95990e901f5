/-
  KernelDispatch.Proofs.Flush.Consistency

  The wait for the compile jobs as the history tells it, and everything that holds
  of a dispatcher together with its history.

  A flush takes the outcomes of its compile jobs in the order in which they were
  reported. Its failures are those among the outcomes taken, and one of its own if
  it has given up; it has then seen its deadline pass, or none of its jobs is left
  (`Joined`). `Consistent` collects this with the layout, the records and the counts
  of the modules before. It holds after every run that begins between flushes with
  no compile job left over, whatever the store holds (`consistent_of_run`).
-/
import KernelDispatch.Proofs.Flush.Jobs

namespace KernelDispatch

variable {C : Type} {cfg : Settings} {env : Environment C}

/-! ## Readings -/

namespace Event

/-- The flush that an event belongs to. -/
def flush? : Event C → Option Nat
  | lowered .. => none
  | began n _ => some n
  | collided .. => none
  | scheduled n _ _ => some n
  | shared n _ => some n
  | reused n _ => some n
  | codegenCalled n _ _ _ => some n
  | codegenEnded n _ _ _ _ => some n
  | slotSettled n _ _ _ _ => some n
  | jobReported n _ _ => some n
  | compileJobLost n _ _ => some n
  | polled n _ _ => some n
  | abandoned n _ => some n
  | joined n _ _ => some n
  | recordStarted n _ _ => some n
  | ran n _ _ _ _ => some n
  | recordEnded n _ _ _ _ => some n
  | launchJobExpired n _ => some n
  | launchJobLost n _ => some n
  | unfinished n _ _ => some n
  | ended n _ => some n
  | returned _ => none
  | unwound _ => none
  | aborted .. => none

/-- The outcome that a compile job of flush `n` reports. -/
def report? (n : Nat) : Event C → Option Outcome
  | jobReported flush _ outcome => if flush = n then some outcome else none
  | _ => none

/-- Whether an event is about the wait for compile jobs. -/
def isJoin : Event C → Bool
  | jobReported .. => true
  | polled .. => true
  | _ => false

end Event

/-- The outcomes that the compile jobs of flush `n` have reported. -/
def reports (n : Nat) (es : List (Event C)) : List Outcome :=
  es.filterMap (Event.report? n)

@[simp] theorem reports_append (n : Nat) (es fs : List (Event C)) :
    reports n (es ++ fs) = reports n es ++ reports n fs :=
  List.filterMap_append

theorem mem_reports {n : Nat} {es : List (Event C)} {outcome : Outcome} :
    outcome ∈ reports n es ↔ ∃ j, Event.jobReported n j outcome ∈ es := by
  constructor
  · intro h
    obtain ⟨e, h_e, h_report⟩ := List.mem_filterMap.1 h
    cases e with
    | jobReported flush j o =>
      simp only [Event.report?, Option.ite_none_right_eq_some, Option.some.injEq] at h_report
      obtain ⟨rfl, rfl⟩ := h_report
      exact ⟨j, h_e⟩
    | _ => simp [Event.report?] at h_report
  · rintro ⟨j, h_e⟩
    exact List.mem_filterMap.2 ⟨_, h_e, by simp [Event.report?]⟩

theorem reports_of_quiet (n : Nat) {es : List (Event C)} (h : ∀ e ∈ es, e.isJoin = false) :
    reports n es = [] := by
  refine List.filterMap_eq_nil_iff.2 fun e h_e => ?_
  have h_quiet := h e h_e
  cases e with
  | jobReported => simp [Event.isJoin] at h_quiet
  | _ => rfl

/-- Whether a flush has left its wait for the compile jobs behind. -/
def Flush.PastJoin (cfg : Settings) (f : Flush C) : Prop :=
  match f.stage with
  | .draining => True
  | .submitting _ => cfg.pipelined = false
  | _ => False

namespace State

variable {s s' t : State C} {f f' : Flush C} {es fs : List (Event C)}

/-! ## Dates -/

/-- Every event belongs to a flush that has begun. -/
def Dated (s : State C) (es : List (Event C)) : Prop :=
  ∀ e ∈ es, ∀ n, e.flush? = some n → n ≤ s.flushes

theorem CallerStep.dated (h_layout : FlushLayout cfg s f) (h : CallerStep cfg env s f s' es) :
    Dated s es := by
  have h_number := Nat.le_of_eq h_layout.number
  intro e h_e n h_n
  cases h with
  | schedules | shares | reuses =>
    simp only [List.mem_append, List.mem_map, List.mem_singleton] at h_e
    rcases h_e with ⟨_, -, rfl⟩ | rfl
    · cases h_n
    · cases h_n
      exact h_number
  | abandons =>
    simp only [endedEvent, List.mem_cons, List.not_mem_nil, or_false] at h_e
    rcases h_e with rfl | rfl | rfl
    · cases h_n
      exact h_number
    · cases h_n
      exact h_number
    · cases h_n
  | succeeds =>
    simp only [endedEvent, List.mem_cons, List.not_mem_nil, or_false] at h_e
    rcases h_e with rfl | rfl
    · cases h_n
      exact h_number
    · cases h_n
  | fails =>
    simp only [endedEvent, List.mem_cons, List.not_mem_nil, or_false] at h_e
    rcases h_e with rfl | rfl | rfl
    · cases h_n
      exact h_number
    · cases h_n
      exact h_number
    · cases h_n
  | unwinds =>
    obtain rfl := List.mem_singleton.1 h_e
    cases h_n
  | drains | polls | drainsJoined =>
    obtain rfl := List.mem_singleton.1 h_e
    cases h_n
    exact h_number
  | beginsJoin | submits | submitsNothing | joins | submitsJoined => simp at h_e

theorem WorkerStep.dated {worker : Nat} {job : CompileJob C} (h_begun : job.flush ≤ s.flushes)
    (h : WorkerStep cfg env s worker job s' es) : Dated s es := by
  intro e h_e n h_n
  cases h with
  | starts | generates | settles | reports | loses =>
    obtain rfl := List.mem_singleton.1 h_e
    cases h_n
    exact h_begun
  | aborts =>
    obtain rfl := List.mem_singleton.1 h_e
    cases h_n

theorem LauncherStep.dated {job : LaunchJob C} {rest : List (LaunchJob C)}
    (h_begun : job.flush ≤ s.flushes) (h : LauncherStep cfg env s job rest s' es) : Dated s es := by
  intro e h_e n h_n
  cases h with
  | waits => simp at h_e
  | overflows | finds | misses | mutes =>
    obtain rfl := List.mem_singleton.1 h_e
    cases h_n
    exact h_begun
  | expires | completes | panics | loses =>
    rcases List.mem_pair.1 h_e with rfl | rfl
    · cases h_n
      exact h_begun
    · cases h_n
      exact h_begun
  | aborts =>
    obtain rfl := List.mem_singleton.1 h_e
    cases h_n

theorem Transition.dated {m : Move C} (h : Dated s fs) (h_layout : Layout cfg s)
    (h_numbered : Numbered s) (h_step : Transition cfg env s m s' es) : Dated s' (fs ++ es) := by
  intro e h_e n h_n
  rcases List.mem_append.1 h_e with h_old | h_new
  · exact Nat.le_trans (h e h_old n h_n) h_step.flushes_le
  have h_before (h_dated : Dated s es) : n ≤ s'.flushes :=
    Nat.le_trans (h_dated e h_new n h_n) h_step.flushes_le
  cases h_step with
  | begins =>
    obtain rfl := List.mem_singleton.1 h_new
    cases h_n
    exact Nat.le_refl _
  | caller h_current h_step => exact h_before (h_step.dated (h_layout.inFlush _ h_current))
  | worker h_running h_job h_step =>
    exact h_before (h_step.dated (h_numbered.begun _ (List.mem_of_find?_eq_some h_job)))
  | @launcher job _ _ _ h_lane h_step =>
    obtain ⟨f, h_f⟩ := h_layout.exists_flush h_lane
    have h_flush := h_layout.inFlush f h_f
    have h_own := (h_flush.own job (by simp [h_lane])).1
    exact h_before (h_step.dated (Nat.le_of_eq (h_own.trans h_flush.number)))
  | returns =>
    obtain rfl := List.mem_singleton.1 h_new
    cases h_n
  | enqueue | dropArtifacts | pick | tick => simp at h_new

theorem Dated.ne {e : Event C} {n : Nat} (h : Dated s es) (h_e : e ∈ es) (h_n : s.flushes < n) :
    e.flush? ≠ some n := fun h_flush => Nat.not_le_of_lt h_n (h e h_e n h_flush)

/-! ## The wait for the compile jobs -/

/-- The failure of its own that a flush adds when it gives up. -/
inductive GivenUp (s : State C) (es : List (Event C)) (f : Flush C) : List Failure → Prop where
  /-- It has not given up. -/
  | waits (h_on : f.join.gaveUp = false)
      (h_quiet : ∀ found join, Event.polled f.number found join ∈ es →
        found.slotMessage? = none) : GivenUp s es f []
  /-- Its deadline has passed. -/
  | expired {waited : Span} (h_over : f.join.gaveUp = true)
      (h_polled : Event.polled f.number (.expired waited) f.join ∈ es) :
      GivenUp s es f [f.join.timeout waited]
  /-- None of its jobs is left. -/
  | orphaned (h_over : f.join.gaveUp = true)
      (h_polled : Event.polled f.number .orphaned f.join ∈ es)
      (h_gone : s.reporters f.number = 0) : GivenUp s es f [f.join.lost]

/-- What a flush knows of its compile jobs is what these have reported, in the same order. -/
structure Joined (cfg : Settings) (s : State C) (es : List (Event C)) (f : Flush C) : Prop where
  received : ∃ taken own, reports f.number es = taken ++ f.inbox ∧
    taken.length = f.join.received ∧
    f.join.failures = taken.filterMap Join.failure? ++ own ∧ GivenUp s es f own
  fresh : f.Requesting → f.join = {}
  isOver : f.PastJoin cfg → f.join.isOver = true

theorem GivenUp.extend {own : List Failure} (h : GivenUp s fs f own)
    (h_number : f'.number = f.number) (h_join : f'.join = f.join)
    (h_quiet : ∀ e ∈ es, e.isPoll = false)
    (h_gone : f.join.gaveUp = true → s.reporters f.number = 0 → s'.reporters f.number = 0) :
    GivenUp s' (fs ++ es) f' own := by
  cases h with
  | waits h_on h_none =>
    refine .waits (h_join ▸ h_on) fun found join h_e => ?_
    rw [h_number] at h_e
    rcases List.mem_append.1 h_e with h_old | h_new
    · exact h_none found join h_old
    · simpa [Event.isPoll] using h_quiet _ h_new
  | @expired waited h_over h_polled =>
    rw [← h_join]
    refine .expired (h_join ▸ h_over) ?_
    rw [h_number, h_join]
    exact List.mem_append_left _ h_polled
  | orphaned h_over h_polled h_none =>
    rw [← h_join]
    refine .orphaned (h_join ▸ h_over) ?_ (h_number ▸ h_gone h_over h_none)
    rw [h_number, h_join]
    exact List.mem_append_left _ h_polled

/-- A flush that does not poll knows what it knew before; outcomes that come wait in its inbox. -/
theorem Joined.extend {new : List Outcome} (h : Joined cfg s fs f) (h_number : f'.number = f.number)
    (h_join : f'.join = f.join) (h_inbox : f'.inbox = f.inbox ++ new)
    (h_reports : reports f.number es = new) (h_quiet : ∀ e ∈ es, e.isPoll = false)
    (h_gone : f.join.gaveUp = true → s.reporters f.number = 0 → s'.reporters f.number = 0)
    (h_fresh : f'.Requesting → f.Requesting)
    (h_past : f'.PastJoin cfg → f.PastJoin cfg ∨ f.join.isOver = true) :
    Joined cfg s' (fs ++ es) f' := by
  obtain ⟨taken, own, h_taken, h_length, h_failures, h_own⟩ := h.received
  refine ⟨⟨taken, own, ?_, ?_, ?_, h_own.extend h_number h_join h_quiet h_gone⟩, ?_, ?_⟩
  · rw [h_number, reports_append, h_taken, h_reports, h_inbox, List.append_assoc]
  · rw [h_join]
    exact h_length
  · rw [h_join]
    exact h_failures
  · exact fun h_requesting => h_join.trans (h.fresh (h_fresh h_requesting))
  · intro h_f'
    rw [h_join]
    rcases h_past h_f' with h_f | h_over
    · exact h.isOver h_f
    · exact h_over

/-- What a poll shows: the next outcome of the inbox, or that there is none. -/
theorem poll_cases {inbox inbox' : List Outcome} {connected : Bool}
    {start deadline now : Moment} {found : Polled}
    (h : Polled.poll inbox connected start deadline now = some (found, inbox')) :
    (∃ o, found = .received o ∧ inbox = o :: inbox') ∨
    (found = .expired (.ofNanos (now - start)) ∧ inbox = [] ∧ inbox' = [] ∧ deadline ≤ now ∧
      connected = true) ∨
    (found = .orphaned ∧ inbox = [] ∧ inbox' = [] ∧ connected = false) := by
  unfold Polled.poll at h
  split at h
  · cases h
    exact .inl ⟨_, rfl, rfl⟩
  · split at h
    · next h_gone =>
      cases h
      exact .inr (.inr ⟨rfl, rfl, rfl, by simpa using h_gone⟩)
    · next h_connected =>
      split at h
      · next h_late =>
        cases h
        exact .inr (.inl ⟨rfl, rfl, rfl, h_late, by simpa using h_connected⟩)
      · contradiction

theorem Joined.polls {found : Polled} {inbox : List Outcome} (h : Joined cfg s fs f)
    (h_stage : f.stage = .joining) (h_over : f.join.isOver = false)
    (h_poll : Polled.poll f.inbox (s.hasReporter f.number) f.joinStart f.joinDeadline s.now =
      some (found, inbox)) (h_jobs : s'.jobs = s.jobs) :
    Joined cfg s' (fs ++ [.polled f.number found (f.join.note found)])
      { f with inbox := inbox, join := f.join.note found } := by
  obtain ⟨taken, own, h_taken, h_length, h_failures, h_own⟩ := h.received
  have h_reports : reports f.number (fs ++ [.polled f.number found (f.join.note found)]) =
      reports f.number fs := by
    rw [reports_append]
    exact List.append_nil _
  simp only [Join.isOver, Bool.or_eq_false_iff] at h_over
  -- A flush that polls has not given up before.
  obtain ⟨rfl, h_none⟩ : own = [] ∧ ∀ found join, Event.polled f.number found join ∈ fs →
      found.slotMessage? = none := by
    cases h_own with
    | waits _ h_quiet => exact ⟨rfl, h_quiet⟩
    | expired h_gaveUp | orphaned h_gaveUp => simp [h_over.1] at h_gaveUp
  rw [List.append_nil] at h_failures
  refine ⟨?_, ?_, ?_⟩
  · rcases poll_cases h_poll with ⟨o, rfl, h_inbox⟩ | ⟨rfl, h_inbox, rfl, -, -⟩ |
      ⟨rfl, h_inbox, rfl, h_gone⟩
    · refine ⟨taken ++ [o], [], ?_, ?_, ?_, .waits h_over.1 ?_⟩
      · rw [h_reports, h_taken, h_inbox]
        simp
      · rw [List.length_append, h_length]
        rfl
      · simp only [Join.note, h_failures, List.filterMap_append, List.append_nil]
        cases o <;> rfl
      · intro found join h_e
        rcases List.mem_append.1 h_e with h_old | h_new
        · exact h_none found join h_old
        · obtain ⟨-, rfl, -⟩ := Event.polled.inj (List.mem_singleton.1 h_new)
          rfl
    · refine ⟨taken, [f.join.timeout (.ofNanos (s.now - f.joinStart))], ?_, h_length, ?_,
        .expired rfl (List.mem_append_right _ (by simp))⟩
      · rw [h_reports, h_taken, h_inbox]
      · simp only [Join.note, h_failures]
    · refine ⟨taken, [f.join.lost], ?_, h_length, ?_,
        .orphaned rfl (List.mem_append_right _ (by simp)) ?_⟩
      · rw [h_reports, h_taken, h_inbox]
      · simp only [Join.note, h_failures]
      · rw [reporters, h_jobs]
        exact reporters_eq_zero_iff.1 h_gone
  · rintro ⟨rest, h_requesting⟩
    exact absurd (h_stage.symm.trans h_requesting) (by simp)
  · intro h_past
    simp only [Flush.PastJoin, h_stage] at h_past

theorem CallerStep.joined (h : Joined cfg s fs f) (h_step : CallerStep cfg env s f s' es)
    (h_f' : s'.current = some f') : Joined cfg s' (fs ++ es) f' := by
  have h_on (h_number : f'.number = f.number) (h_join : f'.join = f.join)
      (h_inbox : f'.inbox = f.inbox) (h_quiet : ∀ e ∈ es, e.isJoin = false)
      (h_gone : f.join.gaveUp = true → s.reporters f.number = 0 → s'.reporters f.number = 0)
      (h_fresh : f'.Requesting → f.Requesting)
      (h_past : f'.PastJoin cfg → f.PastJoin cfg ∨ f.join.isOver = true) :
      Joined cfg s' (fs ++ es) f' := by
    refine h.extend h_number h_join (h_inbox.trans (List.append_nil _).symm)
      (reports_of_quiet _ h_quiet) ?_ h_gone h_fresh h_past
    intro e h_e
    have h_e := h_quiet e h_e
    cases e <;> first | rfl | simp [Event.isJoin] at h_e
  have h_requested (r : Record C) (last : Event C) (h_last : last.isJoin = false) :
      ∀ e ∈ (f.collision r).map (Event.collided · r.key) ++ [last], e.isJoin = false := by
    simp only [List.mem_append, List.mem_map, List.mem_singleton]
    rintro e (⟨_, -, rfl⟩ | rfl)
    · rfl
    · exact h_last
  cases h_step with
  | @schedules r _ h_stage =>
    cases h_f'
    refine h_on rfl rfl rfl (h_requested r _ rfl) ?_ (fun _ => ⟨_, h_stage⟩) False.elim
    -- A flush that still requests tasks has not given up.
    intro h_gaveUp
    rw [h.fresh ⟨_, h_stage⟩] at h_gaveUp
    contradiction
  | @shares r _ h_stage | @reuses r _ h_stage =>
    cases h_f'
    exact h_on rfl rfl rfl (h_requested r _ rfl) (fun _ => id) (fun _ => ⟨_, h_stage⟩) False.elim
  | beginsJoin h_stage =>
    cases h_f'
    obtain ⟨taken, own, h_taken, h_length, h_failures, h_own⟩ := h.received
    rw [h.fresh ⟨_, h_stage⟩] at h_length h_failures
    obtain rfl := List.length_eq_zero_iff.1 h_length
    refine ⟨⟨[], [], by simpa [Flush.joinFrom] using h_taken, rfl, rfl, .waits rfl ?_⟩, ?_, ?_⟩
    · rw [List.append_nil]
      cases h_own with
      | waits _ h_quiet => exact h_quiet
      | expired h_over | orphaned h_over =>
        rw [h.fresh ⟨_, h_stage⟩] at h_over
        contradiction
    · rintro ⟨rest, h_requesting⟩
      simp only [Flush.joinFrom] at h_requesting
      split at h_requesting <;> cases h_requesting
    · intro h_past
      cases h_pipelined : cfg.pipelined <;>
        simp [Flush.PastJoin, Flush.joinFrom, h_pipelined] at h_past
  | submits h_stage | submitsNothing h_stage =>
    cases h_f'
    refine h_on rfl rfl rfl (by simp) (fun _ => id) ?_ ?_
    · rintro ⟨_, h_requesting⟩
      cases h_requesting
    · intro h_past
      simp only [Flush.PastJoin, h_stage] at h_past ⊢
      exact .inl h_past
  | joins h_stage =>
    cases h_f'
    refine h_on rfl rfl rfl (by simp) (fun _ => id) ?_ False.elim
    rintro ⟨_, h_requesting⟩
    cases h_requesting
  | drains h_stage h_pipelined =>
    cases h_f'
    refine h_on rfl rfl rfl (by simp [Event.isJoin, joinedEvent]) (fun _ => id) ?_ ?_
    · rintro ⟨_, h_requesting⟩
      cases h_requesting
    · intro _
      simp only [Flush.PastJoin, h_stage]
      exact .inl h_pipelined
  | polls h_stage h_over h_poll =>
    cases h_f'
    exact h.polls h_stage h_over h_poll rfl
  | drainsJoined h_stage h_over =>
    cases h_f'
    refine h_on rfl rfl rfl (by simp [Event.isJoin, joinedEvent]) (fun _ => id) ?_
      (fun _ => .inr h_over)
    rintro ⟨_, h_requesting⟩
    cases h_requesting
  | submitsJoined h_stage h_over =>
    cases h_f'
    refine h_on rfl rfl rfl (by simp) (fun _ => id) ?_ (fun _ => .inr h_over)
    rintro ⟨_, h_requesting⟩
    cases h_requesting
  | unwinds | abandons | succeeds | fails => cases h_f'

/-- A compile job that reports leaves its outcome in the inbox of its flush. -/
theorem WorkerStep.joined {worker : Nat} {job : CompileJob C}
    (h : ∀ f, s.current = some f → Joined cfg s fs f)
    (h_step : WorkerStep cfg env s worker job s' es) (h_f' : s'.current = some f') :
    Joined cfg s' (fs ++ es) f' := by
  have h_same (h_current : s'.current = s.current) (h_quiet : ∀ e ∈ es, e.isJoin = false)
      (h_gone : s.reporters f'.number = 0 → s'.reporters f'.number = 0) :
      Joined cfg s' (fs ++ es) f' := by
    refine (h f' (h_current ▸ h_f')).extend rfl rfl (List.append_nil _).symm
      (reports_of_quiet _ h_quiet) ?_ (fun _ => h_gone) id .inl
    intro e h_e
    have h_e := h_quiet e h_e
    cases e <;> first | rfl | simp [Event.isJoin] at h_e
  have h_dropped (n : Nat) (h_none : s.reporters n = 0) : (s.dropJob job.id).reporters n = 0 := by
    rw [reporters, List.countP_eq_zero] at h_none ⊢
    exact fun other h_other => h_none other (List.mem_filter.1 h_other).1
  cases h_step with
  | starts | generates | settles =>
    refine h_same rfl (by simp [Event.isJoin]) fun h_none => ?_
    exact (reporters_setPhase s job.id _ f'.number).trans h_none
  | aborts => exact h_same rfl (by simp [Event.isJoin]) id
  | loses => exact h_same rfl (by simp [Event.isJoin]) (h_dropped f'.number)
  | @reports outcome h_phase =>
    obtain ⟨f, h_f, rfl⟩ := Option.map_eq_some_iff.1 h_f'
    by_cases h_own : f.number = job.flush
    · rw [if_pos (by simpa using h_own)]
      exact (h f h_f).extend rfl rfl rfl (by simp [KernelDispatch.reports, Event.report?, h_own])
        (by simp [Event.isPoll]) (fun _ => h_dropped f.number) id .inl
    · rw [if_neg (by simpa using h_own)]
      refine (h f h_f).extend rfl rfl (List.append_nil _).symm ?_
        (by simp [Event.isPoll]) (fun _ => h_dropped f.number) id .inl
      simp [KernelDispatch.reports, Event.report?, Ne.symm h_own]

theorem LauncherStep.joined {job : LaunchJob C} {rest : List (LaunchJob C)}
    (h : ∀ f, s.current = some f → Joined cfg s fs f)
    (h_step : LauncherStep cfg env s job rest s' es) (h_f' : s'.current = some f') :
    Joined cfg s' (fs ++ es) f' := by
  have h_extend (f₀ : Flush C) (h_f₀ : s.current = some f₀) (h_number : f'.number = f₀.number)
      (h_join : f'.join = f₀.join) (h_inbox : f'.inbox = f₀.inbox)
      (h_stage : f'.stage = f₀.stage) (h_jobs : s'.jobs = s.jobs)
      (h_quiet : ∀ e ∈ es, e.isJoin = false) : Joined cfg s' (fs ++ es) f' := by
    refine (h f₀ h_f₀).extend h_number h_join (h_inbox.trans (List.append_nil _).symm)
      (reports_of_quiet _ h_quiet) ?_ ?_ ?_ ?_
    · intro e h_e
      have h_e := h_quiet e h_e
      cases e <;> first | rfl | simp [Event.isJoin] at h_e
    · rw [reporters, reporters, h_jobs]
      exact fun _ => id
    · rintro ⟨rest, h_requesting⟩
      exact ⟨rest, h_stage ▸ h_requesting⟩
    · intro h_past
      simp only [Flush.PastJoin, h_stage] at h_past ⊢
      exact .inl h_past
  have h_posted (outcome : Outcome) (h_current : posted s.current job outcome = some f')
      (h_jobs : s'.jobs = s.jobs) (h_quiet : ∀ e ∈ es, e.isJoin = false) :
      Joined cfg s' (fs ++ es) f' := by
    obtain ⟨f, h_f, rfl⟩ := Option.map_eq_some_iff.1 h_current
    refine h_extend f h_f ?_ ?_ ?_ ?_ h_jobs h_quiet <;> split <;> rfl
  cases h_step with
  | misses | completes | panics => exact h_posted _ h_f' rfl (by simp [Event.isJoin])
  | waits | overflows | finds | mutes | expires | loses | aborts =>
    exact h_extend f' h_f' rfl rfl rfl rfl rfl (by simp [Event.isJoin])

theorem Transition.joined {m : Move C} (h : ∀ f, s.current = some f → Joined cfg s fs f)
    (h_dated : Dated s fs) (h_step : Transition cfg env s m s' es) (h_f' : s'.current = some f') :
    Joined cfg s' (fs ++ es) f' := by
  cases h_step with
  | enqueue h_idle | dropArtifacts h_idle | returns h_idle => simp [h_idle] at h_f'
  | begins h_idle h_some =>
    cases h_f'
    -- The number of the flush is new, so nothing has been reported to it or polled by it.
    have h_none : reports (s.flushes + 1) fs = [] := by
      refine List.filterMap_eq_nil_iff.2 fun e h_e => ?_
      have h_ne := h_dated.ne h_e (Nat.lt_succ_self s.flushes)
      cases e with
      | jobReported n j o =>
        simp only [Event.flush?, ne_eq, Option.some.injEq] at h_ne
        simp [Event.report?, h_ne]
      | _ => rfl
    refine ⟨⟨[], [], ?_, rfl, rfl, .waits rfl ?_⟩, fun _ => rfl, False.elim⟩
    · rw [reports_append]
      change reports (s.flushes + 1) fs ++ [] = []
      rw [h_none, List.append_nil]
    · intro found join h_e
      rcases List.mem_append.1 h_e with h_old | h_new
      · exact absurd rfl (h_dated.ne h_old (Nat.lt_succ_self s.flushes))
      · simp at h_new
  | pick | tick =>
    exact (h f' h_f').extend rfl rfl (List.append_nil _).symm rfl (by simp) (fun _ => id) id .inl
  | caller h_current h_step => exact h_step.joined (h _ h_current) h_f'
  | worker h_running h_job h_step => exact h_step.joined h h_f'
  | launcher h_lane h_step => exact h_step.joined h h_f'

/-- A flush in two phases that has launch jobs has left its wait for the compile jobs behind. -/
theorem FlushLayout.pastJoin_of_lane (h : FlushLayout cfg s f) (h_pipelined : cfg.pipelined = false)
    (h_some : s.lane ≠ []) : f.PastJoin cfg ∧ ¬ f.Requesting := by
  have h_stages := h.stage
  unfold StageLayout at h_stages
  cases h_stage : f.stage with
  | requesting | joining => simp [h_stage, h_pipelined, h_some] at h_stages
  | submitting | draining => simp [Flush.PastJoin, Flush.Requesting, h_stage, h_pipelined]

/-- A flush in two phases that is done with some records has left its wait behind too. -/
theorem FlushLayout.pastJoin_of_done (h : FlushLayout cfg s f) (h_pipelined : cfg.pipelined = false)
    (h_done : s.done f ≠ 0) : f.PastJoin cfg ∧ ¬ f.Requesting := by
  have h_stages := h.stage
  unfold StageLayout at h_stages
  cases h_stage : f.stage with
  | requesting =>
    simp only [h_stage] at h_stages
    simp [done, h_stages.1, h_stages.2.1] at h_done
  | joining =>
    simp only [h_stage, h_pipelined, Bool.false_eq_true, if_false] at h_stages
    simp [done, h_stages.2.1, h_stages.2.2] at h_done
  | submitting | draining => simp [Flush.PastJoin, Flush.Requesting, h_stage, h_pipelined]

/-- A flush that has requested all its tasks knows them. -/
theorem FlushLayout.keys_eq (h : FlushLayout cfg s f) (h_stage : ¬ f.Requesting) :
    f.keys = f.batch.map Record.key := by
  have h_stages := h.stage
  unfold StageLayout at h_stages
  cases h_now : f.stage with
  | requesting rest => exact absurd ⟨rest, h_now⟩ h_stage
  | submitting | joining | draining =>
    rw [h_now] at h_stages
    exact h_stages.1

/-! ## Everything together -/

/-- A dispatcher between flushes without launch jobs and without compile jobs. -/
structure Rested (s : State C) : Prop where
  idle : s.current = none
  lane : s.lane = []
  jobs : s.jobs = []

theorem rested_start (threads : Nat) (now : Moment) : Rested (start (C := C) threads now) :=
  ⟨rfl, rfl, rfl⟩

/-- A dispatcher together with a history that led to it. -/
structure Consistent (cfg : Settings) (s : State C) (es : List (Event C)) : Prop where
  layout : Layout cfg s
  recorded : Recorded s es
  numbered : Numbered s
  dated : Dated s es
  counted : ∀ f, s.current = some f → Counted s es f
  joined : ∀ f, s.current = some f → Joined cfg s es f

theorem Rested.consistent (h : Rested s) : Consistent cfg s [] where
  layout := .ofIdle h.idle h.lane
  recorded := by
    refine ⟨?_, ?_, fun _ _ => rfl, rfl⟩
    all_goals
      intro f h_f
      simp [h.idle] at h_f
  numbered := by
    refine ⟨?_, ?_, ?_⟩
    all_goals
      simp [h.jobs]
  dated := by simp [Dated]
  counted f h_f := by simp [h.idle] at h_f
  joined f h_f := by simp [h.idle] at h_f

/-- A flush that has all outcomes has the failures that its compile jobs have reported; no job is
left, and none is lost. -/
theorem Consistent.of_received (h : Consistent cfg s fs) (h_f : s.current = some f)
    (h_stage : ¬ f.Requesting) (h_over : f.join.isOver = true) (h_on : f.join.gaveUp = false) :
    f.join.failures = (reports f.number fs).filterMap Join.failure? ∧
      (∀ job ∈ s.jobs, job.flush ≠ f.number) ∧
      ∀ j worker, Event.compileJobLost f.number j worker ∉ fs := by
  obtain ⟨taken, own, h_reports, -, h_failures, h_own⟩ := (h.joined f h_f).received
  have h_all : f.join.received = f.join.expected := by simpa [Join.isOver, h_on] using h_over
  have h_total := (h.counted f h_f).total
  rw [awaited_of_requested h_stage, unreported] at h_total
  refine ⟨?_, fun job h_job h_flush => ?_, fun j worker h_lost => ?_⟩
  · have h_inbox : f.inbox = [] := List.length_eq_zero_iff.1 (by omega)
    cases h_own with
    | waits => rw [h_failures, h_reports, h_inbox, List.append_nil, List.append_nil]
    | expired h_gaveUp | orphaned h_gaveUp => simp [h_on] at h_gaveUp
  · have h_some : 0 < s.reporters f.number :=
      List.countP_pos_iff.2 ⟨job, h_job, by simpa using h_flush⟩
    omega
  · have h_some : 0 < fs.countP (Event.losesJob f.number) :=
      List.countP_pos_iff.2 ⟨_, h_lost, by simp [Event.losesJob]⟩
    omega

theorem Consistent.lost_le (h : Consistent cfg s fs) {n j worker : Nat}
    (h_lost : Event.compileJobLost n j worker ∈ fs) : n ≤ s.flushes :=
  h.dated _ h_lost n rfl

theorem Transition.consistent {m : Move C} (h : Consistent cfg s fs)
    (h_step : Transition cfg env s m s' es) : Consistent cfg s' (fs ++ es) where
  layout := h_step.layout h.layout
  recorded := h_step.recorded h.recorded h.layout
  numbered := h_step.numbered h.numbered h.layout
  dated := h_step.dated h.dated h.layout h.numbered
  counted _ h_f' :=
    h_step.counted h.numbered h.counted
      (unreported_eq_zero h.numbered (fun _ _ _ => h.lost_le) (Nat.lt_succ_self _)) h_f'
  joined _ h_f' := h_step.joined h.joined h.dated h_f'

/-- Every run that begins between flushes with no compile job left over is consistent with its
history. -/
theorem consistent_of_run {ms : List (Move C)} {es : List (Stamped C)} (h_rested : Rested s)
    (h_run : run cfg env s ms = some (t, es)) : Consistent cfg t (history es) :=
  history_induction (P := fun _ t es => Consistent cfg t es) h_rested.consistent
    (fun _ _ _ _ _ _ _ _ h_consistent h_step => h_step.consistent h_consistent) h_run

/-- What holds at the start and is kept by every transition of a consistent dispatcher holds of the
history of every run. -/
theorem consistent_induction {P : State C → List (Event C) → Prop} {ms : List (Move C)}
    {es : List (Stamped C)} (h_rested : Rested s) (h_nil : P s [])
    (h_concat : ∀ {m t es u fs}, Consistent cfg t es → P t es → Transition cfg env t m u fs →
      P u (es ++ fs))
    (h_run : run cfg env s ms = some (t, es)) : P t (history es) :=
  history_induction (P := fun _ t es => P t es) h_nil
    (fun _ _ _ _ _ _ h_prefix _ h_P h_step =>
      h_concat (consistent_of_run h_rested h_prefix) h_P h_step) h_run

end State

end KernelDispatch
