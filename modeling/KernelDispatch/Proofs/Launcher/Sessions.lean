/-
  KernelDispatch.Proofs.Launcher.Sessions

  A launcher in use: its owner launches kernels and flushes, and in a flush the threads
  move by any schedule.

  `Launcher.launchBy` and `Launcher.flushBy` are the calls of a launcher with the moves
  of the threads given; the running `flush` is the prompt one among them
  (`Dispatcher.flush_isBy`). Between two calls nothing is batched and nothing is enqueued,
  whatever the calls before came to (`Session.Quiet`), so a launch is what the
  optimizer makes of the records of its kernel, enqueued and flushed
  (`launches_refine_enqueued_flushes`).
-/
import KernelDispatch.Proofs.Flush.Leaving
import KernelDispatch.Proofs.Flush.Prompt
import KernelDispatch.Proofs.Launcher.Kernels

namespace KernelDispatch

variable {K C : Type}

/-! ## Calls by any schedule -/

/-- Without its caller a dispatcher that is between flushes only idles. -/
theorem State.idled_of_run {cfg : Settings} {env : Environment C} {s t : State C}
    {ms : List (Move C)} {es : List (Stamped C)} (h_layout : State.Layout cfg s)
    (h_idle : s.current = none) (h_run : s.run cfg env ms = some (t, es))
    (h_noCall : ∀ m ∈ ms, m.isCall = false) : State.Idled s t (history es) := by
  refine history_induction (P := fun ms t es => (∀ m ∈ ms, m.isCall = false) → State.Idled s t es)
    (fun _ => .refl h_idle) ?_ h_run h_noCall
  intro ms m t es u fs h_prefix _ h_before h_step h_noCall
  exact (h_before fun m h_m => h_noCall m (List.mem_append_left _ h_m)).step
    (h_layout.of_run h_prefix) (h_noCall m (by simp)) h_step

/-- Between flushes none begins by itself. -/
theorem State.begins_nothing {cfg : Settings} {env : Environment C} {s t : State C}
    {ms : List (Move C)} {es : List (Stamped C)} (h_layout : State.Layout cfg s)
    (h_idle : s.current = none) (h_run : s.run cfg env ms = some (t, es))
    (h_noCall : ∀ m ∈ ms, m.isCall = false) :
    t.flushes = s.flushes ∧ ∀ n batch, Event.began n batch ∉ history es := by
  refine history_induction (P := fun ms t es => (∀ m ∈ ms, m.isCall = false) →
    t.flushes = s.flushes ∧ ∀ n batch, Event.began n batch ∉ es) (fun _ => ⟨rfl, by simp⟩) ?_
    h_run h_noCall
  intro ms m t es u fs h_prefix _ h_before h_step h_noCall
  have h_past (m' : Move C) (h_m' : m' ∈ ms) : m'.isCall = false :=
    h_noCall m' (List.mem_append_left _ h_m')
  obtain ⟨h_flushes, h_none⟩ := h_before h_past
  -- No flush has begun so far, so none is in progress, and only a call could begin one.
  have h_still := (State.idled_of_run h_layout h_idle h_prefix h_past).idle
  have h_last : m.isCall = false := h_noCall m (by simp)
  have h_move : u.flushes = t.flushes ∧ ∀ n batch, Event.began n batch ∉ fs := by
    cases h_step with
    | enqueue | dropArtifacts | returns | begins => simp [Move.isCall] at h_last
    | caller h_current => simp [h_still] at h_current
    | worker _ _ h_step => exact ⟨h_step.samePlan.flushes, by cases h_step <;> simp⟩
    | launcher _ h_step => exact ⟨h_step.plan.2.1, by cases h_step <;> simp⟩
    | pick | tick => exact ⟨rfl, by simp⟩
  refine ⟨h_move.1.trans h_flushes, fun n batch h_e => ?_⟩
  exact (List.mem_append.1 h_e).elim (h_none n batch) (h_move.2 n batch)

namespace Dispatcher

variable {q q' : Dispatcher C} {ms : List (Move C)} {es : List (Stamped C)}

/-- The dispatcher after some moves, with what happened; `none` if one of them is not possible. -/
def runBy (q : Dispatcher C) (ms : List (Move C)) : Option (Dispatcher C × List (Stamped C)) :=
  (q.state.run q.settings q.environment ms).map fun (s, es) =>
    ({ q with state := s }.observe es, es)

/-- A call of `flush` during which the threads make these moves; `none` if they cannot, or if the
call is not over by then. -/
def flushBy (q : Dispatcher C) (ms : List (Move C)) :
    Option (FlushAnswer × Dispatcher C × List (Stamped C)) :=
  match q.runBy (.flush :: ms) with
  | some (q', es) =>
    if ms.all (!·.isCall) && q'.state.current.isNone then some (answer es, q', es) else none
  | none => none

theorem runBy_eq_some_iff :
    q.runBy ms = some (q', es) ↔
      ∃ s, q.state.run q.settings q.environment ms = some (s, es) ∧
        q' = { q with state := s }.observe es := by
  simp only [runBy, Option.map_eq_some_iff, Prod.exists, Prod.mk.injEq]
  constructor
  · rintro ⟨s, es, h_run, rfl, rfl⟩
    exact ⟨s, h_run, rfl⟩
  · rintro ⟨s, h_run, rfl⟩
    exact ⟨s, es, h_run, rfl, rfl⟩

theorem flushBy_eq_some_iff {result : FlushAnswer} :
    q.flushBy ms = some (result, q', es) ↔
      q.runBy (.flush :: ms) = some (q', es) ∧ (∀ m ∈ ms, m.isCall = false) ∧
        q'.state.current = none ∧ result = answer es := by
  unfold flushBy
  cases h_run : q.runBy (.flush :: ms) with
  | none => simp
  | some r =>
    obtain ⟨q₁, es₁⟩ := r
    simp only [Bool.and_eq_true, List.all_eq_true, Bool.not_eq_true', Option.isNone_iff_eq_none,
      Option.ite_none_right_eq_some, Option.some.injEq, Prod.mk.injEq]
    constructor
    · rintro ⟨⟨h_noCall, h_idle⟩, rfl, rfl, rfl⟩
      exact ⟨⟨rfl, rfl⟩, h_noCall, h_idle, rfl⟩
    · rintro ⟨⟨rfl, rfl⟩, h_noCall, h_idle, rfl⟩
      exact ⟨⟨h_noCall, h_idle⟩, rfl, rfl, rfl⟩

/-- Some run leads to the state of a dispatcher. -/
def Reached (threads : Nat) (now : Moment) (q : Dispatcher C) : Prop :=
  ∃ ms es, State.run q.settings q.environment (.start threads now) ms = some (q.state, es)

theorem Reached.runBy {threads : Nat} {now : Moment} (h : q.Reached threads now)
    (h_moves : q.runBy ms = some (q', es)) : q'.Reached threads now := by
  obtain ⟨ms₀, es₀, h_before⟩ := h
  obtain ⟨s, h_run, rfl⟩ := runBy_eq_some_iff.1 h_moves
  exact ⟨ms₀ ++ ms, es₀ ++ es, State.run_append.2 ⟨q.state, es₀, es, h_before, h_run, rfl⟩⟩

/-- Between flushes any records can be enqueued. -/
theorem enqueueAll_eq (h_alive : q.state.aborted = false) (h_idle : q.state.current = none)
    (rs : List (Record C)) :
    q.enqueueAll rs = { q with state := { q.state with backlog := q.state.backlog ++ rs } } := by
  induction rs generalizing q with
  | nil => simp [enqueueAll]
  | cons r rs ih =>
    have h_step : q.state.step q.settings q.environment (.enqueue r) =
        some ({ q.state with backlog := q.state.backlog ++ [r] }, []) :=
      State.step_eq_some_iff.2 ⟨h_alive, [], .enqueue h_idle, rfl⟩
    have h_one : q.enqueue r =
        { q with state := { q.state with backlog := q.state.backlog ++ [r] } } := by
      simp only [enqueue, perform, h_step]
      rfl
    show (q.enqueue r).enqueueAll rs = _
    rw [h_one, ih (by exact h_alive) (by exact h_idle)]
    simp

theorem runBy_enqueue (h_alive : q.state.aborted = false) (h_idle : q.state.current = none)
    (rs : List (Record C)) : q.runBy (rs.map .enqueue) = some (q.enqueueAll rs, []) := by
  suffices h_run : ∀ s : State C, s.aborted = false → s.current = none →
      s.run q.settings q.environment (rs.map .enqueue) =
        some ({ s with backlog := s.backlog ++ rs }, []) by
    rw [enqueueAll_eq h_alive h_idle]
    exact runBy_eq_some_iff.2 ⟨_, h_run q.state h_alive h_idle, rfl⟩
  intro s h_alive h_idle
  induction rs generalizing s with
  | nil => simp
  | cons r rs ih =>
    refine State.run_cons.2 ⟨{ s with backlog := s.backlog ++ [r] }, [], [], ?_, ?_, rfl⟩
    · exact State.step_eq_some_iff.2 ⟨h_alive, [], .enqueue h_idle, rfl⟩
    · rw [ih { s with backlog := s.backlog ++ [r] } h_alive h_idle]
      simp

/-- The prompt call of `flush` is a call by some moves. -/
theorem flush_isBy {threads : Nat} {now : Moment} (h_onPanic : q.settings.onPanic ≠ .abort)
    (h_reached : q.Reached threads now) (h_idle : q.state.current = none) :
    ∃ ms, q.flushBy ms = some q.flush := by
  obtain ⟨ms₀, es₀, h_before⟩ := h_reached
  obtain ⟨h_back, ms, h_run, h_noCall⟩ :=
    State.flush_returns h_onPanic h_before h_idle q.pace
  exact ⟨ms, flushBy_eq_some_iff.2 ⟨runBy_eq_some_iff.2 ⟨_, h_run, rfl⟩, h_noCall, h_back, rfl⟩⟩

theorem Reached.enqueueAll {threads : Nat} {now : Moment} (h : q.Reached threads now)
    (h_alive : q.state.aborted = false) (h_idle : q.state.current = none) (rs : List (Record C)) :
    (q.enqueueAll rs).Reached threads now :=
  h.runBy (runBy_enqueue h_alive h_idle rs)

theorem Reached.alive {threads : Nat} {now : Moment} (h : q.Reached threads now)
    (h_onPanic : q.settings.onPanic ≠ .abort) : q.state.aborted = false := by
  obtain ⟨ms, es, h_before⟩ := h
  exact State.alive_of_run h_onPanic h_before

theorem Reached.layout {threads : Nat} {now : Moment} (h : q.Reached threads now) :
    State.Layout q.settings q.state := by
  obtain ⟨ms, es, h_before⟩ := h
  exact State.layout_of_run h_before

/-- A call of `flush` that is over leaves nothing enqueued if the clock can represent the end of its
wait. -/
theorem backlog_of_flushBy {threads : Nat} {now : Moment} {result : FlushAnswer}
    (h_onPanic : q.settings.onPanic ≠ .abort) (h_reached : q.Reached threads now)
    (h_flush : q.flushBy ms = some (result, q', es))
    (h_clock : q.settings.compilePatience.deadline? q'.state.now ≠ none) :
    q'.state.backlog = [] := by
  obtain ⟨ms₀, es₀, h_before⟩ := h_reached
  obtain ⟨h_moves, h_noCall, h_idle, -⟩ := flushBy_eq_some_iff.1 h_flush
  obtain ⟨t, h_run, rfl⟩ := runBy_eq_some_iff.1 h_moves
  obtain ⟨-, -, -, h_returned, -⟩ := State.flush_ends h_onPanic h_before h_run h_noCall
  exact (h_returned h_idle h_clock).2

/-- A flush of nothing returns the empty report and begins nothing. -/
theorem flushBy_of_empty {threads : Nat} {now : Moment} {result : FlushAnswer}
    (h_reached : q.Reached threads now) (h_empty : q.state.backlog = [])
    (h_flush : q.flushBy ms = some (result, q', es)) :
    result = .returned (.ok {}) ∧ q'.state.flushes = q.state.flushes ∧
      ∀ n batch, Event.began n batch ∉ history es := by
  obtain ⟨h_moves, h_noCall, -, rfl⟩ := flushBy_eq_some_iff.1 h_flush
  obtain ⟨t, h_run, rfl⟩ := runBy_eq_some_iff.1 h_moves
  obtain ⟨s₁, _, later, h_begins, h_rest, rfl⟩ := State.run_cons.1 h_run
  obtain ⟨-, fs, h_step, rfl⟩ := State.step_eq_some_iff.1 h_begins
  cases h_step with
  | returns h_idle =>
    obtain ⟨h_flushes, h_none⟩ := State.begins_nothing h_reached.layout h_idle h_rest h_noCall
    refine ⟨rfl, h_flushes, fun n batch h_e => ?_⟩
    rcases List.mem_cons.1 h_e with h_first | h_later
    · cases h_first
    · exact h_none n batch h_later
  | begins _ h_some => exact absurd h_empty h_some

end Dispatcher

/-- A call by the owner of a launcher, or a time without one. -/
inductive LauncherCall (C : Type) where
  /-- The kernel with this number is launched; the threads make these moves from the beginning of
  its flush on. -/
  | launch (kernel : Nat) (optimizer : Optimizer C) (ms : List (Move C))
  | flush (ms : List (Move C))
  | dropArtifacts
  /-- The threads make these moves between two calls. -/
  | pause (ms : List (Move C))

namespace Launcher

variable {l : Launcher C}

/-- A call of `flush` during which the threads make these moves. -/
def flushBy (l : Launcher C) (ms : List (Move C)) :
    Option (FlushAnswer × Launcher C × List (Stamped C)) :=
  ((l.queue.enqueueAll l.batch).flushBy ms).map fun (answer, queue, es) =>
    (answer, { batch := [], queue := queue }, es)

/-- A launch during whose flush the threads make these moves; a refused launch has no flush. -/
def launchBy (l : Launcher C) (optimizer : Optimizer C) (kind : KernelKind K C) (k : K)
    (ms : List (Move C)) : Option (FlushAnswer × Launcher C × K × List (Stamped C)) :=
  match kind.records k with
  | (.error e, k') => some (.returned (.error e), l, k', [])
  | (.ok records, k') =>
    let lowered := (l.queue.state.now, Event.lowered (kind.name k') records.length)
    (flushBy { l with batch := optimizer (l.batch ++ records) } ms).map fun (answer, l', es) =>
      (answer, l', k', lowered :: es)

/-- What a call comes to: its answer, if it gives one, and what has happened. -/
abbrev Outcome (C : Type) := Option FlushAnswer × List (Stamped C)

/-- A launcher with the kernels that it is used for. -/
structure Session (K C : Type) where
  kernels : Nat → K
  launcher : Launcher C

namespace Session

variable {kind : KernelKind K C} {σ τ : Session K C}

/-- A session after a call; `none` if the threads cannot move like that. -/
def call (kind : KernelKind K C) (σ : Session K C) :
    LauncherCall C → Option (Session K C × Outcome C)
  | .launch i optimizer ms =>
    (σ.launcher.launchBy optimizer kind (σ.kernels i) ms).map fun (answer, l, k, es) =>
      (⟨Function.update σ.kernels i k, l⟩, some answer, es)
  | .flush ms =>
    (σ.launcher.flushBy ms).map fun (answer, l, es) => ({ σ with launcher := l }, some answer, es)
  | .dropArtifacts =>
    (σ.launcher.queue.runBy [.dropArtifacts]).map fun (q, es) =>
      ({ σ with launcher := { σ.launcher with queue := q } }, none, es)
  | .pause ms =>
    if ms.all (!·.isCall) then
      (σ.launcher.queue.runBy ms).map fun (q, es) =>
        ({ σ with launcher := { σ.launcher with queue := q } }, none, es)
    else none

/-- A session after a sequence of calls, with what each of them came to. -/
def calls (kind : KernelKind K C) (σ : Session K C) :
    List (LauncherCall C) → Option (Session K C × List (Outcome C))
  | [] => some (σ, [])
  | c :: cs => do
    let (σ, o) ← call kind σ c
    let (σ, os) ← calls kind σ cs
    some (σ, o :: os)

/-- A session that begins with a launcher that has just been opened. -/
def start (kernels : Nat → K) (cfg : Settings) (env : Environment C) (pace : Pace)
    (threads : Nat) (now : Moment) : Session K C where
  kernels := kernels
  launcher := { queue := .start cfg env pace threads now }

/-! ## Between two calls -/

/-- A session between two calls: nothing is batched, and unless the clock cannot represent the end
of a wait for compile jobs, nothing is enqueued. -/
structure Quiet (cfg : Settings) (threads : Nat) (now : Moment) (σ : Session K C) : Prop where
  settings : σ.launcher.queue.settings = cfg
  batch : σ.launcher.batch = []
  idle : σ.launcher.queue.state.current = none
  reached : σ.launcher.queue.Reached threads now
  backlog : cfg.compilePatience.deadline? σ.launcher.queue.state.now ≠ none →
    σ.launcher.queue.state.backlog = []

variable {cfg : Settings} {env : Environment C} {pace : Pace} {threads : Nat} {now : Moment}

theorem quiet_start (kernels : Nat → K) :
    Quiet cfg threads now (start kernels cfg env pace threads now) where
  settings := rfl
  batch := rfl
  idle := rfl
  reached := ⟨[], [], rfl⟩
  backlog _ := rfl

theorem Quiet.alive (h : Quiet cfg threads now σ) (h_onPanic : cfg.onPanic ≠ .abort) :
    σ.launcher.queue.state.aborted = false :=
  h.reached.alive (h.settings ▸ h_onPanic)

/-- A launcher that has enqueued its batch and flushed is quiet again. -/
theorem Quiet.flushBy (h : Quiet cfg threads now σ) (h_onPanic : cfg.onPanic ≠ .abort)
    {batch : List (Record C)} {ms : List (Move C)} {answer : FlushAnswer} {l : Launcher C}
    {es : List (Stamped C)}
    (h_flush : Launcher.flushBy { σ.launcher with batch := batch } ms = some (answer, l, es))
    (kernels : Nat → K) : Quiet cfg threads now ⟨kernels, l⟩ := by
  obtain ⟨⟨_, q, _⟩, h_by, h_eq⟩ := Option.map_eq_some_iff.1 h_flush
  cases h_eq
  have h_enqueued := h.reached.enqueueAll (h.alive h_onPanic) h.idle batch
  have h_all := Dispatcher.enqueueAll_eq (h.alive h_onPanic) h.idle batch
  obtain ⟨h_moves, -, h_idle, -⟩ := Dispatcher.flushBy_eq_some_iff.1 h_by
  have h_reached := h_enqueued.runBy h_moves
  have h_settings : (σ.launcher.queue.enqueueAll batch).settings = cfg := by
    rw [h_all]
    exact h.settings
  have h_same : q.settings = cfg := by
    obtain ⟨t, -, rfl⟩ := Dispatcher.runBy_eq_some_iff.1 h_moves
    exact h_settings
  exact ⟨h_same, rfl, h_idle, h_reached, fun h_clock =>
    Dispatcher.backlog_of_flushBy (h_settings ▸ h_onPanic) h_enqueued h_by (h_settings ▸ h_clock)⟩

/-- A launcher whose dispatcher has idled is as quiet as before. -/
theorem Quiet.idled (h : Quiet cfg threads now σ) {q : Dispatcher C} {ms : List (Move C)}
    {es : List (Stamped C)} (h_moves : σ.launcher.queue.runBy ms = some (q, es))
    (h_idle : q.state.current = none) (h_backlog : q.state.backlog = σ.launcher.queue.state.backlog)
    (h_now : σ.launcher.queue.state.now ≤ q.state.now) :
    Quiet cfg threads now { σ with launcher := { σ.launcher with queue := q } } where
  settings := by
    obtain ⟨t, -, rfl⟩ := Dispatcher.runBy_eq_some_iff.1 h_moves
    exact h.settings
  batch := h.batch
  idle := h_idle
  reached := h.reached.runBy h_moves
  backlog h_clock :=
    h_backlog.trans (h.backlog fun h_none => h_clock (State.deadline?_eq_none_of_le h_none h_now))

/-- A quiet session is quiet after each call. -/
theorem Quiet.call (h : Quiet cfg threads now σ) (h_onPanic : cfg.onPanic ≠ .abort)
    {c : LauncherCall C} {o : Outcome C} (h_call : call kind σ c = some (τ, o)) :
    Quiet cfg threads now τ := by
  cases c with
  | launch i optimizer ms =>
    obtain ⟨⟨_, l, k, _⟩, h_launch, h_eq⟩ := Option.map_eq_some_iff.1 h_call
    cases h_eq
    unfold launchBy at h_launch
    -- A refused launch changes only the kernel; every other one ends with a flush.
    split at h_launch
    · cases h_launch
      exact ⟨h.settings, h.batch, h.idle, h.reached, h.backlog⟩
    · obtain ⟨⟨_, l', _⟩, h_flush, h_eq⟩ := Option.map_eq_some_iff.1 h_launch
      cases h_eq
      exact h.flushBy h_onPanic h_flush _
  | flush ms =>
    obtain ⟨⟨_, l, _⟩, h_flush, h_eq⟩ := Option.map_eq_some_iff.1 h_call
    cases h_eq
    exact h.flushBy h_onPanic h_flush _
  | dropArtifacts =>
    obtain ⟨⟨q, _⟩, h_moves, h_eq⟩ := Option.map_eq_some_iff.1 h_call
    cases h_eq
    obtain ⟨t, h_run, rfl⟩ := Dispatcher.runBy_eq_some_iff.1 h_moves
    obtain ⟨_, _, _, h_step, h_nil, -⟩ := State.run_cons.1 h_run
    obtain ⟨-, fs, h_step, -⟩ := State.step_eq_some_iff.1 h_step
    cases h_nil
    cases h_step
    exact h.idled h_moves h.idle rfl (Nat.le_refl _)
  | pause ms =>
    simp only [Session.call, Option.ite_none_right_eq_some, List.all_eq_true, Bool.not_eq_true']
      at h_call
    obtain ⟨h_noCall, h_call⟩ := h_call
    obtain ⟨⟨q, _⟩, h_moves, h_eq⟩ := Option.map_eq_some_iff.1 h_call
    cases h_eq
    obtain ⟨t, h_run, rfl⟩ := Dispatcher.runBy_eq_some_iff.1 h_moves
    have h_idled := State.idled_of_run h.reached.layout h.idle h_run h_noCall
    exact h.idled h_moves h_idled.idle h_idled.backlog h_idled.now_le

theorem calls_cons {c : LauncherCall C} {cs : List (LauncherCall C)} {os : List (Outcome C)} :
    calls kind σ (c :: cs) = some (τ, os) ↔
      ∃ σ' o os', call kind σ c = some (σ', o) ∧ calls kind σ' cs = some (τ, os') ∧
        os = o :: os' := by
  simp only [calls, Option.bind_eq_bind, Option.bind_eq_some_iff]
  constructor
  · rintro ⟨⟨σ', o⟩, h_call, ⟨_, os'⟩, h_calls, h_eq⟩
    cases h_eq
    exact ⟨σ', o, os', h_call, h_calls, rfl⟩
  · rintro ⟨σ', o, os', h_call, h_calls, rfl⟩
    exact ⟨(σ', o), h_call, (τ, os'), h_calls, rfl⟩

/-- A quiet session is quiet after any calls. -/
theorem Quiet.calls (h : Quiet cfg threads now σ) (h_onPanic : cfg.onPanic ≠ .abort)
    {cs : List (LauncherCall C)} {os : List (Outcome C)}
    (h_calls : calls kind σ cs = some (τ, os)) : Quiet cfg threads now τ := by
  induction cs generalizing σ os with
  | nil =>
    cases h_calls
    exact h
  | cons c cs ih =>
    obtain ⟨σ', o, os', h_call, h_rest, -⟩ := calls_cons.1 h_calls
    exact ih (h.call h_onPanic h_call) h_rest

end Session

/-! ## Launches as flushes -/

/-- What a launch comes to whose kernel `k` is lowered to a flat program of some tasks and is `k'`
then. -/
structure RefinesFlush (kind : KernelKind K C) (l : Launcher C) (k k' : K) (tasks : List String) :
    Prop where
  /-- The kernel is lowered if it is not, and then asked for one context for each task; each task
  becomes one record, in order. -/
  asked (log : List KernelCall) : kind.logging.records (k, log) =
    (.ok (tasks.mapIdx (kind.recordAt k')), kind.asked k' tasks.length,
      log ++ kind.loweringCalls k ++ List.replicate tasks.length .context)
  /-- By every schedule the launch comes to what a flush comes to after exactly what the optimizer
  makes of these records has been enqueued. -/
  flushes (optimizer : Optimizer C) (ms : List (Move C)) : l.launchBy optimizer kind k ms =
    ((l.queue.enqueueAll (optimizer (tasks.mapIdx (kind.recordAt k')))).flushBy ms).map
      fun (answer, queue, es) => (answer, { batch := [], queue := queue },
        kind.asked k' tasks.length, (l.queue.state.now,
          .lowered (kind.name (kind.asked k' tasks.length)) tasks.length) :: es)
  enqueued (rs : List (Record C)) :
    l.queue.enqueueAll rs = { l.queue with state := { l.queue.state with backlog := rs } }
  /-- The prompt launch is one of these. -/
  returns (optimizer : Optimizer C) :
    ∃ ms, l.launchBy optimizer kind k ms = some (l.launch optimizer kind k)
  /-- If the optimizer leaves nothing, there is no flush. -/
  nothing (optimizer : Optimizer C) (ms : List (Move C)) (answer : FlushAnswer) (l' : Launcher C)
    (k'' : K) (es : List (Stamped C)) : optimizer (tasks.mapIdx (kind.recordAt k')) = [] →
    l.launchBy optimizer kind k ms = some (answer, l', k'', es) →
    answer = .returned (.ok {}) ∧ l'.queue.state.flushes = l.queue.state.flushes ∧
      ∀ n batch, Event.began n batch ∉ history es

namespace Session

variable {kind : KernelKind K C} {σ τ : Session K C} {cfg : Settings} {env : Environment C}
  {pace : Pace} {threads : Nat} {now : Moment}

theorem Quiet.refinesFlush (h : Quiet cfg threads now σ) (h_onPanic : cfg.onPanic ≠ .abort)
    (h_backlog : σ.launcher.queue.state.backlog = []) {k k' : K} {tasks : List String}
    (h_lowered : kind.lowered k = (.ok (), k')) (h_flat : kind.program k' = .ofTasks tasks) :
    RefinesFlush kind σ.launcher k k' tasks := by
  have h_records := kind.records_of_flat h_lowered h_flat
  have h_alive := h.alive h_onPanic
  have h_enqueued (rs : List (Record C)) := Dispatcher.enqueueAll_eq h_alive h.idle rs
  have h_flushes (optimizer : Optimizer C) (ms : List (Move C)) :
      σ.launcher.launchBy optimizer kind k ms =
        ((σ.launcher.queue.enqueueAll (optimizer (tasks.mapIdx (kind.recordAt k')))).flushBy ms).map
          fun (answer, queue, es) => (answer, { batch := [], queue := queue },
            kind.asked k' tasks.length, (σ.launcher.queue.state.now,
              .lowered (kind.name (kind.asked k' tasks.length)) tasks.length) :: es) := by
    simp only [launchBy, h_records, h.batch, List.nil_append, Launcher.flushBy, Option.map_map,
      List.length_mapIdx]
    rfl
  refine ⟨KernelKind.logging_records_of_flat h_lowered h_flat, h_flushes, fun rs => ?_,
    fun optimizer => ?_, ?_⟩
  · rw [h_enqueued, h_backlog, List.nil_append]
  · have h_settings : (σ.launcher.queue.enqueueAll
        (optimizer (tasks.mapIdx (kind.recordAt k')))).settings = cfg := by
      rw [h_enqueued]
      exact h.settings
    have h_idle : (σ.launcher.queue.enqueueAll
        (optimizer (tasks.mapIdx (kind.recordAt k')))).state.current = none := by
      rw [h_enqueued]
      exact h.idle
    obtain ⟨ms, h_by⟩ := Dispatcher.flush_isBy (h_settings ▸ h_onPanic)
      (h.reached.enqueueAll h_alive h.idle _) h_idle
    refine ⟨ms, ?_⟩
    rw [h_flushes, h_by]
    simp only [launch, h_records, h.batch, List.nil_append, Launcher.flush, Option.map_some,
      List.length_mapIdx]
  · intro optimizer ms answer l' k'' es h_empty h_launch
    rw [h_flushes, h_empty] at h_launch
    obtain ⟨⟨_, q, later⟩, h_by, h_eq⟩ := Option.map_eq_some_iff.1 h_launch
    cases h_eq
    obtain ⟨rfl, h_same, h_none⟩ := Dispatcher.flushBy_of_empty h.reached h_backlog h_by
    refine ⟨rfl, h_same, fun n batch h_e => ?_⟩
    rcases List.mem_cons.1 h_e with h_first | h_later
    · cases h_first
    · exact h_none n batch h_later

/-- Between any two calls of a launcher nothing is batched and nothing is enqueued, provided that
panics do not end the process and that the clock can represent the end of a wait for compile jobs.
So a launch of a kernel that lowers to a flat program is what the optimizer makes of one record for
each of its tasks, enqueued in order and flushed. -/
theorem launches_refine_enqueued_flushes {kernels : Nat → K} (h_onPanic : cfg.onPanic ≠ .abort)
    {cs : List (LauncherCall C)} {os : List (Outcome C)}
    (h_calls : calls kind (start kernels cfg env pace threads now) cs = some (σ, os))
    (h_clock : cfg.compilePatience.deadline? σ.launcher.queue.state.now ≠ none) :
    σ.launcher.batch = [] ∧ σ.launcher.queue.state.backlog = [] ∧
    σ.launcher.queue.state.current = none ∧
    ∀ i k' tasks, kind.lowered (σ.kernels i) = (.ok (), k') → kind.program k' = .ofTasks tasks →
      RefinesFlush kind σ.launcher (σ.kernels i) k' tasks := by
  have h_quiet := (quiet_start kernels).calls h_onPanic h_calls
  have h_backlog := h_quiet.backlog h_clock
  exact ⟨h_quiet.batch, h_backlog, h_quiet.idle, fun _ _ _ h_lowered h_flat =>
    h_quiet.refinesFlush h_onPanic h_backlog h_lowered h_flat⟩

/-- Kernels that count: from 1 on they are lowered, to one task below 100 and to a loop above. The
context is the count. -/
def countingKernels : KernelKind Nat Nat where
  name _ := "k"
  isLowered k := k ≠ 0
  lower k := (.ok (), k + 1)
  program k := if k < 100 then .ofTasks ["a"] else .other "loop"
  context k := (k, k + 1)

/-- A kernel is launched, another one is refused, and a flush of nothing returns. -/
def threeCalls : List (LauncherCall Nat) :=
  [.launch 0 List.reverse State.soleFlush, .launch 100 id [], .flush []]

theorem three_calls_leave_nothing :
    ∃ σ os, calls countingKernels (start id {} State.adding .instant 1 0) threeCalls =
        some (σ, os) ∧
      σ.launcher.batch = [] ∧ σ.launcher.queue.state.backlog = [] ∧
      RefinesFlush countingKernels σ.launcher 2 2 ["a"] := by
  have h_summary : (calls countingKernels (start id {} State.adding .instant 1 0) threeCalls).map
      (fun r => (r.1.launcher.queue.state.now, r.1.kernels 0)) = some (0, 2) := rfl
  obtain ⟨⟨σ, os⟩, h_calls, h_eq⟩ := Option.map_eq_some_iff.1 h_summary
  obtain ⟨h_now, h_kernel⟩ := Prod.mk.inj h_eq
  have h_clock : (Settings.compilePatience {}).deadline? σ.launcher.queue.state.now ≠ none := by
    rw [show σ.launcher.queue.state.now = 0 from h_now]
    decide
  obtain ⟨h_batch, h_backlog, -, h_launches⟩ :=
    launches_refine_enqueued_flushes (by decide) h_calls h_clock
  have h_kernel : σ.kernels 0 = 2 := h_kernel
  have h_launch := h_launches 0 2 ["a"] (by rw [h_kernel]; rfl) rfl
  rw [h_kernel] at h_launch
  exact ⟨σ, os, h_calls, h_batch, h_backlog, h_launch⟩

end Session

end Launcher

end KernelDispatch
