/-
  KernelDispatch.Proofs.Flush.Bookkeeping

  The books that a flush keeps of its wait for the compile jobs.

  Whatever state the wait begins in, a move of the dispatcher takes one outcome, or
  gives the wait up, or leaves the books alone (`WaitMove`). So at every later moment
  the failures of the flush are those among the outcomes it has taken, in the order in
  which they came, and at most one of its own, and the moves of the caller leave the
  store alone but for the one that gives up (`WaitedAs`). The caller is held up only
  while there is a reason to wait, and once there is none any more it comes to the end
  of the wait by its own moves (`comes_to_its_end`).
-/
import KernelDispatch.Proofs.Flush.Consistency
import KernelDispatch.Proofs.Flush.Order
import KernelDispatch.Proofs.Flush.Provenance

namespace KernelDispatch

variable {C : Type} {cfg : Settings} {env : Environment C}

namespace State

variable {s s' t u : State C} {f f' g : Flush C} {m : Move C} {ms : List (Move C)}
  {es : List (Stamped C)} {fs : List (Event C)} {jobs : Nat}

/-! ## Moves during a wait -/

/-- A flush that has given up a wait with `pending` outcomes missing, in the state `s`: the failure
that it adds to those of its compile jobs, and the content of the slots that it fails. -/
inductive Resigns (s : State C) (f : Flush C) (pending : Nat) : Failure → String → Prop where
  /-- The deadline has passed, and some job can still report. -/
  | late (h_late : f.joinDeadline ≤ s.now) (h_reporter : s.hasReporter f.number = true) :
      Resigns s f pending (.compileOverdue pending (.ofNanos (s.now - f.joinStart)))
        ("compilation timed out after " ++ (Span.ofNanos (s.now - f.joinStart)).text)
  /-- No job can report any more. -/
  | alone (h_alone : s.hasReporter f.number = false) :
      Resigns s f pending
        (.buildsLost (toString pending ++ " compilation(s) lost with their worker"))
        "compile worker died"

/-- What a move does to the wait of a flush that has requested all its tasks. -/
inductive WaitMove (s : State C) (f : Flush C) (m : Move C) (s' : State C) (f' : Flush C)
    (fs : List (Event C)) : Prop where
  /-- The caller takes the next outcome. -/
  | takes {outcome : Outcome} (h_m : m = .caller) (h_over : f.join.isOver = false)
      (h_inbox : f.inbox = outcome :: f'.inbox)
      (h_join : f'.join = f.join.note (.received outcome)) (h_store : s'.store = s.store)
      (h_reports : reports f.number fs = [])
  /-- The caller gives up. -/
  | resigns {failure : Failure} {message : String} (h_m : m = .caller)
      (h_over : f.join.isOver = false) (h_reason : Resigns s f f.join.missing failure message)
      (h_inbox : f.inbox = []) (h_inbox' : f'.inbox = [])
      (h_join : f'.join =
        { f.join with failures := f.join.failures ++ [failure], gaveUp := true })
      (h_store : s'.store = (s.store.rejectPending message).2)
      (h_reports : reports f.number fs = [])
  /-- Outcomes may come, and others may change the store. -/
  | goesOn (h_inbox : f'.inbox = f.inbox ++ reports f.number fs) (h_join : f'.join = f.join)
      (h_store : m = .caller → s'.store = s.store)

/-- The same wait of a flush that has requested all its tasks. -/
structure SameWait (f f' : Flush C) : Prop where
  number : f'.number = f.number
  start : f'.joinStart = f.joinStart
  deadline : f'.joinDeadline = f.joinDeadline
  requested : ¬ f'.Requesting

theorem Resigns.of_sameWait {pending : Nat} {failure : Failure} {message : String}
    (h_same : SameWait f f') (h : Resigns s f' pending failure message) :
    Resigns s f pending failure message := by
  obtain ⟨h_number, h_start, h_deadline, -⟩ := h_same
  cases h with
  | late h_late h_reporter =>
    rw [h_start]
    exact .late (h_deadline ▸ h_late) (h_number ▸ h_reporter)
  | alone h_alone => exact .alone (h_number ▸ h_alone)

theorem CallerStep.waitMove (h_stage : ¬ f.Requesting) (h : CallerStep cfg env s f s' fs)
    (h_f' : s'.current = some f') : SameWait f f' ∧ WaitMove s f .caller s' f' fs := by
  cases h with
  | schedules h_requesting | shares h_requesting | reuses h_requesting | beginsJoin h_requesting =>
    exact absurd ⟨_, h_requesting⟩ h_stage
  | polls h_joining h_over h_poll =>
    obtain rfl := Option.some.inj h_f'
    refine ⟨⟨rfl, rfl, rfl, h_stage⟩, ?_⟩
    rcases poll_cases h_poll with ⟨o, rfl, h_inbox⟩ | ⟨rfl, h_inbox, rfl, h_late, h_connected⟩ |
      ⟨rfl, h_inbox, rfl, h_gone⟩
    · exact .takes rfl h_over h_inbox rfl rfl rfl
    · exact .resigns rfl h_over (.late h_late h_connected) h_inbox rfl rfl rfl rfl
    · exact .resigns rfl h_over (.alone h_gone) h_inbox rfl rfl rfl rfl
  | submits | submitsNothing | joins | drains | drainsJoined | submitsJoined =>
    obtain rfl := Option.some.inj h_f'
    refine ⟨⟨rfl, rfl, rfl, by simp [Flush.Requesting]⟩, ?_⟩
    exact .goesOn (List.append_nil _).symm rfl fun _ => rfl
  | unwinds | abandons | succeeds | fails => cases h_f'

/-- A compile job that reports leaves its outcome with the flush. -/
theorem WorkerStep.waitMove {worker : Nat} {job : CompileJob C} (h_f : s.current = some f)
    (h_stage : ¬ f.Requesting) (h : WorkerStep cfg env s worker job s' fs)
    (h_f' : s'.current = some f') : SameWait f f' ∧ WaitMove s f (.worker worker) s' f' fs := by
  cases h with
  | @reports outcome h_phase =>
    obtain ⟨f₁, h_f₁, rfl⟩ := Option.map_eq_some_iff.1 h_f'
    obtain rfl := Option.some.inj (h_f₁.symm.trans h_f)
    by_cases h_own : f₁.number = job.flush
    · rw [if_pos (by simpa using h_own)]
      refine ⟨⟨rfl, rfl, rfl, h_stage⟩, .goesOn ?_ rfl (by simp)⟩
      simp [KernelDispatch.reports, Event.report?, h_own]
    · rw [if_neg (by simpa using h_own)]
      refine ⟨⟨rfl, rfl, rfl, h_stage⟩, .goesOn ?_ rfl (by simp)⟩
      simp [KernelDispatch.reports, Event.report?, Ne.symm h_own]
  | starts | generates | aborts | settles | loses =>
    obtain rfl := Option.some.inj (h_f'.symm.trans h_f)
    exact ⟨⟨rfl, rfl, rfl, h_stage⟩, .goesOn (List.append_nil _).symm rfl (by simp)⟩

theorem LauncherStep.waitMove {job : LaunchJob C} {rest : List (LaunchJob C)}
    (h_f : s.current = some f) (h_stage : ¬ f.Requesting)
    (h : LauncherStep cfg env s job rest s' fs) (h_f' : s'.current = some f') :
    SameWait f f' ∧ WaitMove s f .launcher s' f' fs := by
  have h_posted (outcome : Outcome) (h_current : posted s.current job outcome = some f')
      (h_quiet : reports f.number fs = []) : SameWait f f' ∧ WaitMove s f .launcher s' f' fs := by
    obtain ⟨f₁, h_f₁, rfl⟩ := Option.map_eq_some_iff.1 h_current
    obtain rfl := Option.some.inj (h_f₁.symm.trans h_f)
    split
    · refine ⟨⟨rfl, rfl, rfl, h_stage⟩, .goesOn ?_ rfl (by simp)⟩
      rw [h_quiet, List.append_nil]
    · refine ⟨⟨rfl, rfl, rfl, h_stage⟩, .goesOn ?_ rfl (by simp)⟩
      rw [h_quiet, List.append_nil]
  cases h with
  | misses | completes | panics => exact h_posted _ h_f' rfl
  | waits | overflows | finds | mutes | expires | loses | aborts =>
    obtain rfl := Option.some.inj (h_f'.symm.trans h_f)
    exact ⟨⟨rfl, rfl, rfl, h_stage⟩, .goesOn (List.append_nil _).symm rfl (by simp)⟩

theorem Transition.waitMove (h_f : s.current = some f) (h_stage : ¬ f.Requesting)
    (h : Transition cfg env s m s' fs) (h_f' : s'.current = some f') :
    SameWait f f' ∧ WaitMove s f m s' f' fs := by
  cases h with
  | caller h_current h_step =>
    obtain rfl := Option.some.inj (h_current.symm.trans h_f)
    exact h_step.waitMove h_stage h_f'
  | worker _ _ h_step => exact h_step.waitMove h_f h_stage h_f'
  | launcher _ h_step => exact h_step.waitMove h_f h_stage h_f'
  | pick | tick =>
    obtain rfl := Option.some.inj (h_f'.symm.trans h_f)
    exact ⟨⟨rfl, rfl, rfl, h_stage⟩, .goesOn (List.append_nil _).symm rfl (by simp)⟩
  | enqueue h_idle | dropArtifacts h_idle | returns h_idle | begins h_idle => simp [h_idle] at h_f

/-- Without a call of `flush` no flush begins. -/
theorem Transition.current_of_noFlush (h : Transition cfg env s m s' fs) (h_m : m ≠ .flush)
    (h_f' : s'.current = some f') : ∃ f, s.current = some f := by
  cases h with
  | caller h_current => exact ⟨_, h_current⟩
  | worker _ _ h_step =>
    cases h_step with
    | reports =>
      obtain ⟨f, h_f, -⟩ := Option.map_eq_some_iff.1 h_f'
      exact ⟨f, h_f⟩
    | _ => exact ⟨_, h_f'⟩
  | launcher _ h_step =>
    cases h_step with
    | misses | completes | panics =>
      obtain ⟨f, h_f, -⟩ := Option.map_eq_some_iff.1 h_f'
      exact ⟨f, h_f⟩
    | _ => exact ⟨_, h_f'⟩
  | enqueue | dropArtifacts | pick | tick => exact ⟨_, h_f'⟩
  | returns | begins => exact absurd rfl h_m

/-! ## The store -/

/-- The moves of the caller in a run leave the store as it is. -/
def CallerKeepsStore (cfg : Settings) (env : Environment C) (s : State C) (ms : List (Move C)) :
    Prop :=
  ∀ before after u es v fs, ms = before ++ .caller :: after → run cfg env s before = some (u, es) →
    step cfg env u .caller = some (v, fs) → v.store = u.store

theorem callerKeepsStore_nil : CallerKeepsStore cfg env s [] := by
  intro before after u es v fs h_ms
  simp at h_ms

theorem CallerKeepsStore.concat (h : CallerKeepsStore cfg env s ms)
    (h_run : run cfg env s ms = some (t, es)) (h_alive : t.aborted = false)
    (h_step : Transition cfg env t m u fs) (h_store : m = .caller → u.store = t.store) :
    CallerKeepsStore cfg env s (ms ++ [m]) := by
  intro before after u' es' v fs' h_ms h_before h_caller
  -- The move of the caller is the last one or one before.
  rcases List.eq_nil_or_concat after with rfl | ⟨after, last, rfl⟩
  · obtain ⟨rfl, h_m⟩ := List.append_inj' h_ms rfl
    obtain rfl := List.singleton_inj.1 h_m
    have h_last := step_eq_some_iff.2 ⟨h_alive, fs, h_step, rfl⟩
    rw [h_run] at h_before
    cases h_before
    rw [h_last] at h_caller
    cases h_caller
    exact h_store rfl
  · rw [List.concat_eq_append, ← List.cons_append, ← List.append_assoc] at h_ms
    exact h before after u' es' v fs' (List.append_inj' h_ms rfl).1 h_before h_caller

/-- How the flush `f`, whose wait begins in the state `s`, stands with it after some moves in which
it has taken these outcomes: it has not given up, or it has and has added a failure of its own. -/
inductive WaitedAs (cfg : Settings) (env : Environment C) (s : State C) (f : Flush C) (jobs : Nat)
    (taken : List Outcome) : List (Move C) → Option Failure → Prop where
  /-- The caller has left the store alone. -/
  | goesOn {ms : List (Move C)} (h_store : CallerKeepsStore cfg env s ms) :
      WaitedAs cfg env s f jobs taken ms none
  /-- The caller has given up at a moment when it had taken all the outcomes that had come, and
  some were missing. It has failed the slots that were pending then, and no other, and before and
  after that it has left the store alone. -/
  | resigned {before after : List (Move C)} {u v : State C} {es fs : List (Stamped C)}
      {pending : Nat} {failure : Failure} {message : String}
      (h_before : run cfg env s before = some (u, es))
      (h_step : step cfg env u .caller = some (v, fs))
      (h_taken : f.inbox ++ reports f.number (history es) = taken)
      (h_pending : taken.length + pending = jobs) (h_some : 0 < pending)
      (h_reason : Resigns u f pending failure message)
      (h_slots : ∀ k, v.store.slot? k = (u.store.slot? k).map fun slot =>
        if slot.isPending then .failed message else slot)
      (h_store : CallerKeepsStore cfg env s before) (h_later : CallerKeepsStore cfg env v after) :
      WaitedAs cfg env s f jobs taken (before ++ .caller :: after) (some failure)

/-- The books of flush `f'` say that it has taken these outcomes and added this failure. -/
structure Books (cfg : Settings) (env : Environment C) (s : State C) (f : Flush C) (jobs : Nat)
    (ms : List (Move C)) (es : List (Stamped C)) (f' : Flush C) (taken : List Outcome)
    (own : Option Failure) : Prop where
  same : SameWait f f'
  arrivals : f.inbox ++ reports f.number (history es) = taken ++ f'.inbox
  join : f'.join =
    ⟨jobs, taken.length, taken.filterMap Join.failure? ++ own.toList, own.isSome⟩
  within : taken.length ≤ jobs
  waited : WaitedAs cfg env s f jobs taken ms own

/-- A wait that goes on has not been given up, and some outcome is missing. -/
theorem Books.of_going {taken : List Outcome} {own : Option Failure}
    (h : Books cfg env s f jobs ms es f' taken own) (h_going : f'.join.isOver = false) :
    own = none ∧ taken.length < jobs := by
  simp only [h.join, Join.isOver, Bool.or_eq_false_iff, Option.isSome_eq_false_iff,
    Option.isNone_iff_eq_none, beq_eq_false_iff_ne] at h_going
  exact ⟨h_going.1, Nat.lt_of_le_of_ne h.within h_going.2⟩

/-- Moves that leave the books alone keep a wait as it stands. -/
theorem WaitedAs.concat {taken : List Outcome} {own : Option Failure}
    (h : WaitedAs cfg env s f jobs taken ms own) (h_run : run cfg env s ms = some (t, es))
    (h_alive : t.aborted = false) (h_step : Transition cfg env t m u fs)
    (h_store : m = .caller → u.store = t.store) :
    WaitedAs cfg env s f jobs taken (ms ++ [m]) own := by
  cases h with
  | goesOn h_keeps => exact .goesOn (h_keeps.concat h_run h_alive h_step h_store)
  | @resigned before after u' v es' fs' _ _ _ h_before h_caller h_taken h_pending h_some h_reason
      h_slots h_keeps h_later =>
    obtain ⟨u₁, es₁, es₂, h_before₁, h_rest, -⟩ := run_append.1 h_run
    obtain ⟨v₁, es₃, es₄, h_caller₁, h_after, -⟩ := run_cons.1 h_rest
    rw [h_before] at h_before₁
    cases h_before₁
    rw [h_caller] at h_caller₁
    cases h_caller₁
    rw [List.append_assoc, List.cons_append]
    exact .resigned h_before h_caller h_taken h_pending h_some h_reason h_slots h_keeps
      (h_later.concat h_after h_alive h_step h_store)

theorem Books.concat {taken : List Outcome} {own : Option Failure}
    (h : Books cfg env s f jobs ms es f' taken own) (h_run : run cfg env s ms = some (t, es))
    (h_alive : t.aborted = false) (h_step : Transition cfg env t m u fs)
    (h_f' : t.current = some f') (h_g : u.current = some g) :
    ∃ taken own, Books cfg env s f jobs (ms ++ [m]) (es ++ stamp t.now fs) g taken own := by
  have ⟨h_same, h_arrivals, h_join, h_within, h_waited⟩ := h
  obtain ⟨h_same', h_move⟩ := h_step.waitMove h_f' h_same.requested h_g
  have h_wait : SameWait f g := ⟨h_same'.number.trans h_same.number,
    h_same'.start.trans h_same.start, h_same'.deadline.trans h_same.deadline, h_same'.requested⟩
  have h_reports (h_none : reports f'.number fs = []) :
      reports f.number (history (es ++ stamp t.now fs)) = reports f.number (history es) := by
    rw [history_append, history_stamp, reports_append, ← h_same.number, h_none, List.append_nil]
  cases h_move with
  | @takes outcome h_m h_over h_inbox h_join' h_store h_none =>
    obtain ⟨rfl, h_missing⟩ := h.of_going h_over
    refine ⟨taken ++ [outcome], none, h_wait, ?_, ?_, ?_, ?_⟩
    · rw [h_reports h_none, h_arrivals, h_inbox, List.append_assoc, List.singleton_append]
    · rw [h_join', h_join]
      cases outcome <;> simp [Join.note, Join.failure?]
    · rw [List.length_append, List.length_singleton]
      omega
    · cases h_waited with
      | goesOn h_keeps => exact .goesOn (h_keeps.concat h_run h_alive h_step fun _ => h_store)
  | @resigns failure message h_m h_over h_reason h_inbox h_inbox' h_join' h_store h_none =>
    obtain ⟨rfl, h_missing⟩ := h.of_going h_over
    subst h_m
    rw [h_inbox, List.append_nil] at h_arrivals
    refine ⟨taken, some failure, h_wait, ?_, ?_, h_within, ?_⟩
    · rw [h_reports h_none, h_arrivals, h_inbox', List.append_nil]
    · rw [h_join', h_join]
      simp
    · cases h_waited with
      | goesOn h_keeps =>
        have h_number : f'.join.missing = jobs - taken.length := by rw [h_join, Join.missing]
        rw [h_number] at h_reason
        refine .resigned h_run (step_eq_some_iff.2 ⟨h_alive, fs, h_step, rfl⟩) h_arrivals
          (by omega) (by omega) (h_reason.of_sameWait h_same) (fun k => ?_) h_keeps
          callerKeepsStore_nil
        rw [h_store, ArtifactStore.slot?_rejectPending]
  | goesOn h_inbox h_join' h_store =>
    refine ⟨taken, own, h_wait, ?_, h_join'.trans h_join, h_within,
      h_waited.concat h_run h_alive h_step h_store⟩
    rw [history_append, history_stamp, reports_append, ← List.append_assoc, h_arrivals, h_inbox,
      h_same.number, List.append_assoc]

/-- At every moment of a flush after the beginning of its wait, its books are in order. -/
theorem books_of_run (h_f : s.current = some f) (h_stage : ¬ f.Requesting)
    (h_join : f.join = { expected := jobs }) (h_run : run cfg env s ms = some (t, es))
    (h_noFlush : .flush ∉ ms) (h_f' : t.current = some f') :
    ∃ taken own, Books cfg env s f jobs ms es f' taken own := by
  refine run_induction (P := fun ms t es => .flush ∉ ms → ∀ f', t.current = some f' →
    ∃ taken own, Books cfg env s f jobs ms es f' taken own) ?_ ?_ h_run h_noFlush f' h_f'
  · intro _ f' h_f'
    obtain rfl := Option.some.inj (h_f'.symm.trans h_f)
    exact ⟨[], none, ⟨rfl, rfl, rfl, h_stage⟩, List.append_nil _, h_join, Nat.zero_le _,
      .goesOn callerKeepsStore_nil⟩
  · intro ms m t es u fs h_prefix h_alive h_before h_step h_noFlush g h_g
    rw [List.mem_append, List.mem_singleton, not_or] at h_noFlush
    obtain ⟨f', h_f'⟩ := h_step.current_of_noFlush (Ne.symm h_noFlush.2) h_g
    obtain ⟨taken, own, h_books⟩ := h_before h_noFlush.1 f' h_f'
    exact h_books.concat h_prefix h_alive h_step h_f' h_g

/-! ## The end of a wait -/

/-- A poll shows something as soon as there is an outcome, or nobody is left to report, or the
deadline has passed. -/
theorem poll_isSome_iff {inbox : List Outcome} {connected : Bool} (start : Moment)
    {deadline now : Moment} :
    (Polled.poll inbox connected start deadline now).isSome = true ↔
      inbox ≠ [] ∨ connected = false ∨ deadline ≤ now := by
  cases inbox with
  | cons o rest => simp [Polled.poll]
  | nil =>
    cases connected with
    | false => simp [Polled.poll]
    | true =>
      by_cases h_late : deadline ≤ now
      · simp [Polled.poll, h_late]
      · simp [Polled.poll, h_late]

/-- What a poll shows is what the caller of a flush that waits goes on with. -/
theorem step_of_poll {found : Polled} {inbox : List Outcome} (h_alive : s.aborted = false)
    (h_f : s.current = some f) (h_stage : f.stage = .joining) (h_over : f.join.isOver = false)
    (h_poll : Polled.poll f.inbox (s.hasReporter f.number) f.joinStart f.joinDeadline s.now
      = some (found, inbox)) :
    step cfg env s .caller = some
      ({ s with
          store := storeAfter s.store found
          current := some { f with inbox := inbox, join := f.join.note found } },
        stamp s.now [.polled f.number found (f.join.note found)]) :=
  step_eq_some_iff.2 ⟨h_alive, _, .caller h_f (.polls h_stage h_over h_poll), rfl⟩

/-- The caller of a flush that waits goes on exactly if a poll shows something. -/
theorem step_isSome_iff (h_alive : s.aborted = false) (h_f : s.current = some f)
    (h_stage : f.stage = .joining) (h_over : f.join.isOver = false) :
    (step cfg env s .caller).isSome = true ↔
      f.inbox ≠ [] ∨ s.hasReporter f.number = false ∨ f.joinDeadline ≤ s.now := by
  rw [← poll_isSome_iff f.joinStart]
  constructor
  · intro h
    obtain ⟨⟨u, fs⟩, h_step⟩ := Option.isSome_iff_exists.1 h
    obtain ⟨-, es, h_caller, -⟩ := step_eq_some_iff.1 h_step
    cases h_caller with
    | caller h_current h_step =>
      obtain rfl := Option.some.inj (h_current.symm.trans h_f)
      cases h_step with
      | polls _ _ h_poll => exact Option.isSome_iff_exists.2 ⟨_, h_poll⟩
      | drainsJoined _ h_over' | abandons _ h_over' | submitsJoined _ h_over' =>
        simp [h_over] at h_over'
      | schedules h_stage' | shares h_stage' | reuses h_stage' | unwinds h_stage'
      | beginsJoin h_stage' | submits h_stage' | submitsNothing h_stage' | joins h_stage'
      | drains h_stage' | succeeds h_stage' | fails h_stage' => simp [h_stage] at h_stage'
  · intro h
    obtain ⟨⟨found, inbox⟩, h_poll⟩ := Option.isSome_iff_exists.1 h
    exact Option.isSome_iff_exists.2 ⟨_, step_of_poll h_alive h_f h_stage h_over h_poll⟩

/-- Once the deadline has passed or nobody is left to report, the caller comes to the end of the
wait by its own moves, one for each outcome that is missing at most. -/
theorem comes_to_its_end {missing : Nat} (h_alive : s.aborted = false)
    (h_f : s.current = some f) (h_stage : f.stage = .joining)
    (h_missing : f.join.expected ≤ f.join.received + missing)
    (h_within : f.join.received ≤ f.join.expected)
    (h_ready : s.hasReporter f.number = false ∨ f.joinDeadline ≤ s.now) :
    ∃ n u es g, n ≤ missing ∧ run cfg env s (List.replicate n .caller) = some (u, es) ∧
      u.current = some g ∧ g.number = f.number ∧ g.join.isOver = true := by
  induction missing generalizing s f with
  | zero =>
    have h_all : f.join.received = f.join.expected := by omega
    exact ⟨0, s, [], f, Nat.le_refl _, rfl, h_f, rfl, by simp [Join.isOver, h_all]⟩
  | succ missing ih =>
    cases h_over : f.join.isOver with
    | true => exact ⟨0, s, [], f, Nat.zero_le _, rfl, h_f, rfl, h_over⟩
    | false =>
      obtain ⟨⟨found, inbox⟩, h_poll⟩ := Option.isSome_iff_exists.1
        ((poll_isSome_iff f.joinStart).2 (.inr h_ready) : (Polled.poll f.inbox
          (s.hasReporter f.number) f.joinStart f.joinDeadline s.now).isSome = true)
      have h_step : step cfg env s .caller = _ := step_of_poll h_alive h_f h_stage h_over h_poll
      simp only [Join.isOver, Bool.or_eq_false_iff, beq_eq_false_iff_ne] at h_over
      cases found with
      | received outcome =>
        -- One outcome is missing less, and the rest is the same wait.
        obtain ⟨n, u, es, g, h_n, h_run, h_g, h_number, h_end⟩ :=
          ih (s := { s with
              store := storeAfter s.store (.received outcome)
              current := some { f with inbox := inbox, join := f.join.note (.received outcome) } })
            (f := { f with inbox := inbox, join := f.join.note (.received outcome) }) h_alive rfl
            h_stage (by simp only [Join.note]; omega) (by simp only [Join.note]; omega) h_ready
        exact ⟨n + 1, u, _, g, Nat.succ_le_succ h_n, run_cons.2 ⟨_, _, _, h_step, h_run, rfl⟩, h_g,
          h_number, h_end⟩
      | expired | orphaned =>
        exact ⟨1, _, _, _, by omega, run_cons.2 ⟨_, _, _, h_step, rfl, rfl⟩, rfl, rfl, rfl⟩

/-- The books of a wait, whatever state it begins in: however many outcomes are expected, whatever
outcomes come and when, whenever the deadline is and whenever nobody is left to report. At every
later moment of the flush the outcomes taken are the first of those that have come, and the failures
are those among them, in order, and one of the flush's own if it has given up. When the wait is
over, it has given up exactly if an outcome is missing; `WaitedAs` says why, how many are missing,
and what has become of the store. The caller is held up only while no outcome is there, some job can
still report and the deadline has not passed, and once no job can report or the deadline has passed,
the wait comes to its end. -/
theorem wait_keeps_its_books (h_f : s.current = some f) (h_stage : f.stage = .joining)
    (h_join : f.join = { expected := jobs }) (h_run : run cfg env s ms = some (t, es))
    (h_noFlush : .flush ∉ ms) (h_f' : t.current = some f') :
    ∃ taken own,
      f.inbox ++ reports f.number (history es) = taken ++ f'.inbox ∧ taken.length ≤ jobs ∧
      f'.join =
        ⟨jobs, taken.length, taken.filterMap Join.failure? ++ own.toList, own.isSome⟩ ∧
      WaitedAs cfg env s f jobs taken ms own ∧
      (f'.join.isOver = true → (own.isSome = true ↔ taken.length < jobs)) ∧
      (t.aborted = false → f'.stage = .joining →
        (f'.join.isOver = false → ((step cfg env t .caller).isSome = true ↔
          f'.inbox ≠ [] ∨ t.hasReporter f.number = false ∨ f.joinDeadline ≤ t.now)) ∧
        (t.hasReporter f.number = false ∨ f.joinDeadline ≤ t.now →
          ∃ n u fs g, n ≤ jobs - taken.length ∧
            run cfg env t (List.replicate n .caller) = some (u, fs) ∧ u.current = some g ∧
            g.number = f.number ∧ g.join.isOver = true)) := by
  have h_requested : ¬ f.Requesting := by simp [Flush.Requesting, h_stage]
  obtain ⟨taken, own, h_same, h_arrivals, h_books, h_within, h_waited⟩ :=
    books_of_run h_f h_requested h_join h_run h_noFlush h_f'
  refine ⟨taken, own, h_arrivals, h_within, h_books, h_waited, fun h_over => ?_,
    fun h_alive h_stage' => ⟨fun h_on => ?_, fun h_ready => ?_⟩⟩
  · cases h_waited with
    | goesOn =>
      simp only [h_books, Join.isOver, Option.isSome_none, Bool.false_or, beq_iff_eq] at h_over
      simp [h_over]
    | resigned _ _ _ h_pending h_some => simp only [Option.isSome_some, true_iff]; omega
  · rw [← h_same.number, ← h_same.deadline]
    exact step_isSome_iff h_alive h_f' h_stage' h_on
  · rw [← h_same.number, ← h_same.deadline] at h_ready
    rw [← h_same.number]
    refine comes_to_its_end h_alive h_f' h_stage' ?_ ?_ h_ready
    · simp only [h_books]
      omega
    · simp only [h_books]
      exact h_within

/-- A flush of two records that begins to wait for its compile jobs. -/
def twoAwaited : List (Move Nat) :=
  [.enqueue ⟨0, "k", "b"⟩, .enqueue ⟨1, "k", "a"⟩, .flush] ++ List.replicate 3 .caller

/-- The first job fails in time, and the second one has not reported at the deadline. -/
def secondTooLate : List (Move Nat) :=
  [[.pick (.takeShared 0 0)], List.replicate 4 (.worker 0), [.caller, .pick (.takeShared 0 0)],
    List.replicate 2 (.worker 0), [.tick 1, .caller]].flatten

theorem second_of_two_outcomes_is_missing :
    ∃ s es₀ f t es f', run impatient counting (start 1 0) twoAwaited = some (s, es₀) ∧
      s.current = some f ∧ f.stage = .joining ∧ f.join = { expected := 2 } ∧
      run impatient counting s secondTooLate = some (t, es) ∧ .flush ∉ secondTooLate ∧
      t.current = some f' ∧
      f'.join.failures = [.compilation "k" (TaskId.ofText "b").headline (TaskId.ofText "b").digest
        "unsupported", .compileOverdue 1 (.ofNanos 1)] ∧
      t.store.slot? (.ofText "a") = some (.failed "compilation timed out after 1ns") ∧
      ∃ outcome failure, WaitedAs impatient counting s f 2 [outcome] secondTooLate
        (some failure) := by
  have h_summary : ((run impatient counting (start 1 0) twoAwaited).bind fun r₀ =>
      r₀.1.current.bind fun f => (run impatient counting r₀.1 secondTooLate).bind fun r =>
        r.1.current.map fun f' => (f.stage, f.join, f'.join,
          r.1.store.slot? (.ofText "a"))) =
      some (.joining, { expected := 2 },
        ⟨2, 1, [.compilation "k" (TaskId.ofText "b").headline (TaskId.ofText "b").digest
          "unsupported", .compileOverdue 1 (.ofNanos 1)], true⟩,
        some (.failed "compilation timed out after 1ns")) := rfl
  obtain ⟨⟨s, es₀⟩, h_before, h_later⟩ := Option.bind_eq_some_iff.1 h_summary
  obtain ⟨f, h_f, h_later⟩ := Option.bind_eq_some_iff.1 h_later
  obtain ⟨⟨t, es⟩, h_run, h_later⟩ := Option.bind_eq_some_iff.1 h_later
  obtain ⟨f', h_f', h_eq⟩ := Option.map_eq_some_iff.1 h_later
  simp only [Prod.mk.injEq] at h_eq
  obtain ⟨h_stage, h_join, h_join', h_slot⟩ := h_eq
  have h_noFlush : .flush ∉ secondTooLate := by simp [secondTooLate]
  obtain ⟨taken, own, -, -, h_books, h_waited, -⟩ :=
    wait_keeps_its_books h_f h_stage h_join h_run h_noFlush h_f'
  refine ⟨s, es₀, f, t, es, f', h_before, h_f, h_stage, h_join, h_run, h_noFlush, h_f',
    congrArg Join.failures h_join', h_slot, ?_⟩
  -- The books tell that one outcome has been taken and that the flush has given up.
  rw [h_join', Join.mk.injEq] at h_books
  obtain ⟨-, h_length, -, h_gaveUp⟩ := h_books
  obtain ⟨outcome, rfl⟩ := List.length_eq_one_iff.1 h_length.symm
  obtain ⟨failure, rfl⟩ := Option.isSome_iff_exists.1 h_gaveUp.symm
  exact ⟨outcome, failure, h_waited⟩

end State

end KernelDispatch
