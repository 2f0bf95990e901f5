/-
  KernelDispatch.Proofs.Dispatcher.Diagnostics

  Settings that only help to watch a dispatcher do not steer it.

  Whether timelines are kept, whether a caught panic is logged, how threads are named and
  how large their stacks are: settings that differ in nothing else are alike
  (`Settings.Alike`). No thread looks at these settings when it moves, so a move leads to
  the same state with the same events (`Settings.Alike.move_eq`), and so does a run by any
  schedule. The tallies, which are made of the events, agree with them; the log and the
  timelines may differ.
-/
import KernelDispatch.Dispatcher
import KernelDispatch.Proofs.Opening.Threads

namespace KernelDispatch

/-- Two settings that differ in nothing but the telemetry, the log of caught panics, the names of
threads and the sizes of their stacks. -/
structure Settings.Alike (cfg cfg' : Settings) : Prop where
  compileWorkers : cfg.compileWorkers = cfg'.compileWorkers
  retention : cfg.retention = cfg'.retention
  onFailure : cfg.onFailure = cfg'.onFailure
  pipelined : cfg.pipelined = cfg'.pipelined
  compilePatience : cfg.compilePatience = cfg'.compilePatience
  dispatchPatience : cfg.dispatchPatience = cfg'.dispatchPatience
  onPanic : cfg.onPanic = .abort ↔ cfg'.onPanic = .abort

namespace Settings.Alike

variable {C : Type} {cfg cfg' : Settings} {env : Environment C} {s : State C}

/-! ## Settings -/

/-- The check of the settings does not look at those for diagnostics. -/
theorem valid_iff (h : cfg.Alike cfg') : cfg.Valid ↔ cfg'.Valid := by
  simp only [Settings.Valid, Settings.fault?, h.compileWorkers, h.retention, h.compilePatience,
    h.dispatchPatience, h.pipelined, h.onFailure]

theorem threadCount_eq (h : cfg.Alike cfg') (cores : Nat) :
    cfg.threadCount cores = cfg'.threadCount cores := by
  rw [Settings.threadCount, h.compileWorkers, Settings.threadCount]

/-- A guard makes the same of a piece of work, whether it logs the panic or not. -/
theorem contain_eq {α : Type} (h : cfg.Alike cfg') (what : String) (work : Attempt α) :
    (cfg.panicGuard.contain what work).1 = (cfg'.panicGuard.contain what work).1 := by
  cases work with
  | returned => rfl
  | panicked cause =>
    -- Alike settings agree on whether a panic ends the process, and that is all that is asked.
    simp only [PanicGuard.contain_panicked, Settings.panicGuard, h.onPanic]

/-! ## Moves -/

theorem afterJoin_eq (h : cfg.Alike cfg') (f : Flush C) :
    s.afterJoin cfg env f = s.afterJoin cfg' env f := by
  simp only [State.afterJoin, State.closeFlush, h.pipelined, h.onFailure, h.retention]

theorem callerMove_eq (h : cfg.Alike cfg') : s.callerMove cfg env = s.callerMove cfg' env := by
  simp only [State.callerMove, State.beginJoin, State.submitOne, State.conclude,
    State.closeFlush, h.afterJoin_eq, h.pipelined, h.compilePatience, h.retention]

theorem workerMove_eq (h : cfg.Alike cfg') (worker : Nat) :
    s.workerMove cfg env worker = s.workerMove cfg' env worker := by
  simp only [State.workerMove, State.endCodegen, h.contain_eq]

theorem launcherMove_eq (h : cfg.Alike cfg') :
    s.launcherMove cfg env = s.launcherMove cfg' env := by
  simp only [State.launcherMove, State.beginWait, State.runFirst, h.dispatchPatience,
    h.contain_eq]

/-- A move leads to the same state with the same events. -/
theorem move_eq (h : cfg.Alike cfg') (m : Move C) : s.move cfg env m = s.move cfg' env m := by
  cases m with
  | caller => exact h.callerMove_eq
  | worker i => exact h.workerMove_eq i
  | launcher => exact h.launcherMove_eq
  | _ => rfl

theorem step_eq (h : cfg.Alike cfg') :
    State.step (C := C) cfg = State.step cfg' := by
  funext env s m
  simp only [State.step, h.move_eq]

/-! ## Runs -/

/-- A run by any schedule leads to the same state with the same events. -/
theorem run_eq (h : cfg.Alike cfg') (ms : List (Move C)) :
    s.run cfg env ms = s.run cfg' env ms := by
  induction ms generalizing s with
  | nil => rfl
  | cons m ms ih => simp only [State.run, h.step_eq, ih]

theorem compileStep_eq (h : cfg.Alike cfg') :
    State.compileStep (C := C) cfg = State.compileStep cfg' := by
  funext env pace s
  simp only [State.compileStep, State.workersStep, State.pickStep, h.step_eq]

/-- The prompt schedule makes the same moves. -/
theorem promptStep_eq (h : cfg.Alike cfg') :
    State.promptStep (C := C) cfg = State.promptStep cfg' := by
  funext env pace s
  simp only [State.promptStep, State.waitStep, h.step_eq, h.compileStep_eq]

theorem flush_eq (h : cfg.Alike cfg') (pace : Pace) :
    s.flush cfg env pace = s.flush cfg' env pace := by
  simp only [State.flush, h.step_eq, h.promptStep_eq]

end Settings.Alike

/-! ## Dispatchers -/

namespace Dispatcher

variable {C : Type} {q q' : Dispatcher C}

/-- Two dispatchers that may differ in their diagnostics only. -/
structure Alike (q q' : Dispatcher C) : Prop where
  settings : q.settings.Alike q'.settings
  environment : q.environment = q'.environment
  pace : q.pace = q'.pace
  state : q.state = q'.state
  tallies : q.tallies = q'.tallies

/-- Dispatchers that take note of the same events stay alike. -/
theorem Alike.observe (h : q.Alike q') (s : State C) (es : List (Stamped C)) :
    ({ q with state := s }.observe es).Alike ({ q' with state := s }.observe es) where
  settings := h.settings
  environment := h.environment
  pace := h.pace
  state := rfl
  tallies := congrArg (Event.tally · es) h.tallies

theorem Alike.perform (h : q.Alike q') (m : Move C) : (q.perform m).Alike (q'.perform m) := by
  have h_step : q.state.step q.settings q.environment m =
      q'.state.step q'.settings q'.environment m := by
    rw [h.state, h.environment, h.settings.step_eq]
  unfold Dispatcher.perform
  rw [← h_step]
  cases q.state.step q.settings q.environment m with
  | none => exact h
  | some r => exact h.observe r.1 r.2

theorem Alike.performAll (h : q.Alike q') (ms : List (Move C)) :
    (ms.foldl Dispatcher.perform q).Alike (ms.foldl Dispatcher.perform q') := by
  induction ms generalizing q q' with
  | nil => exact h
  | cons m ms ih => exact ih (h.perform m)

/-- A call of `flush` ends in the same way, after the same events. -/
theorem Alike.flush (h : q.Alike q') :
    q.flush.1 = q'.flush.1 ∧ q.flush.2.1.Alike q'.flush.2.1 ∧ q.flush.2.2 = q'.flush.2.2 := by
  have h_flush : q.state.flush q.settings q.environment q.pace =
      q'.state.flush q'.settings q'.environment q'.pace := by
    rw [h.state, h.environment, h.pace, h.settings.flush_eq]
  unfold Dispatcher.flush
  rw [← h_flush]
  exact ⟨rfl, h.observe _ _, rfl⟩

/-- Dispatchers opened with alike settings, before their first call. -/
theorem alike_start {cfg cfg' : Settings} (h : cfg.Alike cfg') (env : Environment C) (pace : Pace)
    (cores : Nat) (now : Moment) :
    (start cfg env pace (cfg.threadCount cores) now).Alike
      (start cfg' env pace (cfg'.threadCount cores) now) where
  settings := h
  environment := rfl
  pace := rfl
  state := congrArg (State.start · now) (h.threadCount_eq cores)
  tallies := rfl

/-- Valid settings that differ in diagnostics only both open. By every schedule the two dispatchers
then go through the same events, the answers of `flush`, the calls of the code generator and the
runs of artifacts among them, and have the same artifacts and the same tallies at every moment; and
a prompt call of `flush` that comes next ends in the same way for both. -/
theorem diagnostics_do_not_steer {cfg cfg' : Settings} (h_alike : cfg.Alike cfg')
    (h_valid : cfg.Valid) (h_label : NulFree cfg.threadLabel) (h_label' : NulFree cfg'.threadLabel)
    {cores : Nat} (h_cores : 0 < cores) {host host' : Opening.Host} (h_host : ∀ n, host n = none)
    (h_host' : ∀ n, host' n = none) :
    (Opening.dispatcher cfg cores host).2 = .opened ∧
    (Opening.dispatcher cfg' cores host').2 = .opened ∧
    ∀ (env : Environment C) (pace : Pace) (now : Moment) (ms : List (Move C)),
      let q := start cfg env pace (cfg.threadCount cores) now
      let q' := start cfg' env pace (cfg'.threadCount cores) now
      q.state.run cfg env ms = q'.state.run cfg' env ms ∧
      (ms.foldl perform q).state = (ms.foldl perform q').state ∧
      (ms.foldl perform q).tallies = (ms.foldl perform q').tallies ∧
      (ms.foldl perform q).flush.1 = (ms.foldl perform q').flush.1 ∧
      (ms.foldl perform q).flush.2.2 = (ms.foldl perform q').flush.2.2 := by
  refine ⟨?_, ?_, fun env pace now ms => ?_⟩
  · rw [Opening.dispatcher_opens h_valid h_label h_cores h_host]
  · rw [Opening.dispatcher_opens (h_alike.valid_iff.1 h_valid) h_label' h_cores h_host']
  · have h_start := alike_start h_alike env pace cores now
    have h_now := h_start.performAll ms
    refine ⟨?_, h_now.state, h_now.tallies, h_now.flush.1, h_now.flush.2.2⟩
    rw [h_start.state, h_alike.run_eq]

/-- Settings under which everything is watched, and settings under which nothing is. -/
def watched : Settings := {}

def unwatched : Settings where
  onPanic := .quiet
  telemetry := false
  stackBytes := none
  threadLabel := "worker"

/-- A code generator whose artifacts panic. -/
def panicking : Environment Nat where
  codegen _ _ := .code fun _ _ => .panicked (.saying "boom")

/-- A dispatcher with one record whose artifact panics. -/
def onePanicking (cfg : Settings) : Dispatcher Nat :=
  [.enqueue ⟨0, "k", "a"⟩].foldl perform (start cfg panicking .instant (cfg.threadCount 1) 0)

theorem unwatched_panic_is_reported_alike :
    watched.Alike unwatched ∧ watched.Valid ∧ NulFree watched.threadLabel ∧
    NulFree unwatched.threadLabel ∧
    (onePanicking watched).flush.1 = (onePanicking unwatched).flush.1 ∧
    (onePanicking watched).flush.2.2 = (onePanicking unwatched).flush.2.2 ∧
    (Event.journal watched.onPanic (onePanicking watched).flush.2.2).length =
      (Event.journal unwatched.onPanic (onePanicking unwatched).flush.2.2).length + 1 ∧
    (onePanicking watched).flush.2.1.lastTimeline?.isSome = true ∧
    (onePanicking unwatched).flush.2.1.lastTimeline?.isSome = false := by
  have h_alike : watched.Alike unwatched := ⟨rfl, rfl, rfl, rfl, rfl, rfl, by decide⟩
  have h_host (n : Nat) : (fun _ => none : Opening.Host) n = none := rfl
  obtain ⟨-, -, h_course⟩ := diagnostics_do_not_steer (C := Nat) h_alike (by decide) (by decide)
    (by decide) Nat.one_pos h_host h_host
  obtain ⟨-, -, -, h_answer, h_events⟩ := h_course panicking .instant 0 [.enqueue ⟨0, "k", "a"⟩]
  simp only [← onePanicking.eq_1] at h_answer h_events
  exact ⟨h_alike, by decide, by decide, by decide, h_answer, h_events, by decide +kernel,
    by decide +kernel, by decide +kernel⟩

end Dispatcher

end KernelDispatch
