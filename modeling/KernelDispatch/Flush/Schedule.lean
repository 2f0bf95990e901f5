/-
  KernelDispatch.Flush.Schedule

  One schedule of a dispatcher: the prompt one.

  Every thread moves as soon as it can, in a fixed order of precedence: the
  caller, the compile workers, a worker that gets a job, the launch thread. A
  call of the code generator keeps its worker busy as long as its pace says.
  Time passes only when nothing else can happen, and then exactly to the next
  moment at which something can: a call ends, or somebody stops waiting. If both
  fall on the same moment, the caller has stopped waiting when the call ends.

  Each step of the schedule is a move of the dispatcher (`promptStep_isMove`), so
  whatever holds of all runs holds of the prompt one.
-/
import KernelDispatch.Flush.Step

namespace KernelDispatch

/-- How many nanoseconds a call of the code generator takes; `none` for a call that hangs. -/
abbrev Pace := CodegenCall → Option Nat

/-- The pace at which no call takes any time. -/
def Pace.instant : Pace := fun _ => some 0

namespace State

variable {C : Type}

/-- The call of the code generator that keeps a worker busy, and when it began. -/
def callAt? (s : State C) (worker : Nat) : Option (CodegenCall × Moment) :=
  match (s.pool.runningAt? worker).bind s.job? with
  | some job =>
    match job.phase with
    | .generating call _ since => some (call, since)
    | _ => none
  | none => none

/-- When a worker's call ends; `none` without a call, and for a call that hangs. -/
def callEnd? (pace : Pace) (s : State C) (worker : Nat) : Option Moment := do
  let (call, since) ← s.callAt? worker
  let nanos ← pace call
  return since + nanos

/-- Whether a worker has nothing to wait for: it has no call, or its call has taken its time. -/
def isPrompt (pace : Pace) (s : State C) (worker : Nat) : Bool :=
  match s.callAt? worker with
  | none => true
  | some _ => (s.callEnd? pace worker).any (· ≤ s.now)

/-- The first worker that goes on with its job. -/
def workersStep (cfg : Settings) (env : Environment C) (pace : Pace) (s : State C) :
    Option (State C × List (Stamped C)) :=
  (List.range s.pool.threads).findSome? fun i =>
    if s.isPrompt pace i then step cfg env s (.worker i) else none

/-- The first idle worker gets a job. -/
def pickStep (cfg : Settings) (env : Environment C) (s : State C) :
    Option (State C × List (Stamped C)) :=
  match s.pool.nextPick? with
  | some take => step cfg env s (.pick take)
  | none => none

/-- When the caller stops waiting for compile jobs. -/
def joinDeadline? (s : State C) : Option Moment :=
  match s.current with
  | some f =>
    match f.stage with
    | .joining => some f.joinDeadline
    | _ => none
  | none => none

/-- When the launch thread stops waiting for an artifact. -/
def launchDeadline? (s : State C) : Option Moment :=
  match s.lane with
  | [] => none
  | job :: _ =>
    match job.phase with
    | .waiting _ deadline => some deadline
    | _ => none

/-- The moments at which something happens by itself. -/
def alarms (pace : Pace) (s : State C) : List Moment :=
  (List.range s.pool.threads).filterMap (s.callEnd? pace)
    ++ s.joinDeadline?.toList ++ s.launchDeadline?.toList

/-- Time passes to the next alarm. -/
def waitStep (cfg : Settings) (env : Environment C) (pace : Pace) (s : State C) :
    Option (State C × List (Stamped C)) :=
  match ((s.alarms pace).filter (s.now < ·)).min? with
  | some next => step cfg env s (.tick (next - s.now))
  | none => none

/-- The next step of the compile workers. -/
def compileStep (cfg : Settings) (env : Environment C) (pace : Pace) (s : State C) :
    Option (State C × List (Stamped C)) :=
  workersStep cfg env pace s <|> pickStep cfg env s

/-- The next step of the prompt schedule during a flush. -/
def promptStep (cfg : Settings) (env : Environment C) (pace : Pace) (s : State C) :
    Option (State C × List (Stamped C)) :=
  if s.current.isNone then none
  else
    step cfg env s .caller
      <|> compileStep cfg env pace s
      <|> step cfg env s .launcher
      <|> waitStep cfg env pace s

/-- A bound on the steps of the prompt schedule until nothing is left to do: the task of each
record is requested and the record submitted, awaited and run, and each compile job is picked,
run, awaited and received. -/
def stepBound (s : State C) : Nat :=
  16 * (s.backlog.length + s.jobs.length + s.lane.length) + 16

/-- The caller calls `flush`, and everything moves promptly until it returns. -/
def flush (cfg : Settings) (env : Environment C) (pace : Pace) (s : State C) :
    State C × List (Stamped C) :=
  match step cfg env s .flush with
  | some (t, es) =>
    let (u, fs) := traceUpTo (promptStep cfg env pace) (stepBound s) t
    (u, es ++ fs)
  | none => (s, [])

/-- The compile workers finish the jobs that are left; every call comes to its end at once. -/
def settle (cfg : Settings) (env : Environment C) (s : State C) : State C × List (Stamped C) :=
  traceUpTo (compileStep cfg env .instant) (stepBound s) s

/-! ## The schedule makes moves -/

theorem workersStep_isMove {cfg : Settings} {env : Environment C} {pace : Pace} {s : State C}
    {r : State C × List (Stamped C)} (h : workersStep cfg env pace s = some r) :
    ∃ m, step cfg env s m = some r := by
  obtain ⟨i, -, h_step⟩ := List.exists_of_findSome?_eq_some h
  split at h_step
  · exact ⟨_, h_step⟩
  · contradiction

theorem pickStep_isMove {cfg : Settings} {env : Environment C} {s : State C}
    {r : State C × List (Stamped C)} (h : pickStep cfg env s = some r) :
    ∃ m, step cfg env s m = some r := by
  unfold pickStep at h
  split at h
  · exact ⟨_, h⟩
  · contradiction

theorem waitStep_isMove {cfg : Settings} {env : Environment C} {pace : Pace} {s : State C}
    {r : State C × List (Stamped C)} (h : waitStep cfg env pace s = some r) :
    ∃ m, step cfg env s m = some r := by
  unfold waitStep at h
  split at h
  · exact ⟨_, h⟩
  · contradiction

theorem compileStep_isMove {cfg : Settings} {env : Environment C} {pace : Pace} {s : State C}
    {r : State C × List (Stamped C)} (h : compileStep cfg env pace s = some r) :
    ∃ m, step cfg env s m = some r := by
  rcases eq_some_of_orElse h with h | h
  · exact workersStep_isMove h
  · exact pickStep_isMove h

/-- Each step of the prompt schedule is a move. -/
theorem promptStep_isMove {cfg : Settings} {env : Environment C} {pace : Pace} {s : State C}
    {r : State C × List (Stamped C)} (h : promptStep cfg env pace s = some r) :
    ∃ m, step cfg env s m = some r := by
  unfold promptStep at h
  split at h
  · contradiction
  · rcases eq_some_of_orElse h with h | h
    · exact ⟨_, h⟩
    · rcases eq_some_of_orElse h with h | h
      · exact compileStep_isMove h
      · rcases eq_some_of_orElse h with h | h
        · exact ⟨_, h⟩
        · exact waitStep_isMove h

end State

end KernelDispatch
