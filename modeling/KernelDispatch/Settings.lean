/-
  KernelDispatch.Settings

  The settings of a dispatcher: how many workers compile, how long artifacts are
  kept, what a flush does about a failed compilation, how long it waits, and how
  panics, threads and telemetry are treated.

  `Settings.fault?` finds the first contradiction in a fixed order;
  `Settings.checked` lets exactly the settings without one through.
-/
import KernelDispatch.Failure
import KernelDispatch.Text.Quoted
import KernelDispatch.Text.Shown

namespace KernelDispatch

/-- How long compiled artifacts are kept. -/
inductive Retention where
  /-- Until the end of the flush that compiled them. -/
  | untilFlushEnds
  /-- Across flushes; at the end of each the least recently used beyond `maxEntries` go. -/
  | acrossFlushes (maxEntries : Nat)
  deriving DecidableEq

/-- What a flush does when a task fails to compile. -/
inductive OnFailure where
  /-- Run nothing of the flush. -/
  | abandonFlush
  /-- Leave out only the records that need the missing artifact. -/
  | runOthers
  deriving DecidableEq

/-- What happens when the code generator or an artifact panics. -/
inductive OnPanic where
  /-- The process ends. -/
  | abort
  /-- The panic becomes a failure, silently. -/
  | quiet
  /-- The panic becomes a failure and is logged. -/
  | log
  deriving DecidableEq

/-- The settings of a dispatcher. -/
structure Settings where
  /-- The number of compile workers; the number of cores if not given. -/
  compileWorkers : Option Nat := none
  retention : Retention := .untilFlushEnds
  onFailure : OnFailure := .runOthers
  /-- Whether records may run while others still compile. -/
  pipelined : Bool := false
  /-- How long a flush waits for its compilations. -/
  compilePatience : Span := .ofSeconds 300
  /-- How long a record waits for its artifact. -/
  dispatchPatience : Span := .ofSeconds 60
  onPanic : OnPanic := .log
  /-- Whether a timeline of each flush is kept. -/
  telemetry : Bool := true
  /-- The stack size of every thread in bytes; the system's own if not given. -/
  stackBytes : Option Nat := some 8388608
  /-- The first part of every thread's name. -/
  threadLabel : String := "offload"
  deriving DecidableEq

/-- A contradiction in the settings. -/
inductive SettingsFault where
  | noThreads
  | tooManyThreads
  | emptyStore
  | noCompileTime
  | noDispatchTime
  | pipelinedAbort
  deriving DecidableEq

/-- The wording of a contradiction. -/
def SettingsFault.message : SettingsFault → String
  | noThreads => "compile_threads must be > 0"
  | tooManyThreads => "compile_threads too large (max 1024)"
  | emptyStore => "persistent cache needs max_entries > 0"
  | noCompileTime => "compile_timeout must be > 0"
  | noDispatchTime => "dispatch_timeout must be > 0"
  | pipelinedAbort => "pipelined dispatch cannot abort a flush that is already executing"

/-- A contradiction as a failure. -/
def SettingsFault.failure (f : SettingsFault) : Failure :=
  .settings f.message

namespace Settings

/-- The most compile workers that may be asked for. -/
def maxThreads : Nat := 1024

/-- The fault of a number of compile workers, if any. -/
def threadFault? : Option Nat → Option SettingsFault
  | some n =>
    if n = 0 then some .noThreads
    else if n > maxThreads then some .tooManyThreads
    else none
  | none => none

/-- The fault of a retention, if any. -/
def retentionFault? : Retention → Option SettingsFault
  | .acrossFlushes maxEntries => if maxEntries = 0 then some .emptyStore else none
  | .untilFlushEnds => none

/-- The first contradiction: workers, store size, compile patience, dispatch patience, modes. -/
def fault? (s : Settings) : Option SettingsFault :=
  threadFault? s.compileWorkers
    <|> retentionFault? s.retention
    <|> (if s.compilePatience.isZero then some .noCompileTime else none)
    <|> (if s.dispatchPatience.isZero then some .noDispatchTime else none)
    <|> (if s.pipelined && s.onFailure == .abandonFlush then some .pipelinedAbort else none)

/-- Settings without a contradiction. -/
def Valid (s : Settings) : Prop :=
  s.fault? = none

instance (s : Settings) : Decidable s.Valid :=
  inferInstanceAs (Decidable (s.fault? = none))

/-- Settings are let through exactly if they are valid. -/
def checked (s : Settings) : Except Failure Settings :=
  match s.fault? with
  | some fault => .error fault.failure
  | none => .ok s

/-- The number of compile workers on a machine with the given number of cores. -/
def threadCount (s : Settings) (cores : Nat) : Nat :=
  s.compileWorkers.getD cores

/-- The name of the compile worker with the given number. -/
def compileThreadName (s : Settings) (worker : Nat) : String :=
  s.threadLabel ++ "-compile-" ++ toString worker

/-- The name of the launch thread. -/
def launchThreadName (s : Settings) : String :=
  s.threadLabel ++ "-launch"

end Settings

/-! ## The shown form -/

/-- The shown form of a retention. -/
def Retention.shown : Retention → String
  | untilFlushEnds => "PerFlush"
  | acrossFlushes n => Text.shownRecord "Persistent" [("max_entries", toString n)]

/-- The shown form of what a flush does on a failure. -/
def OnFailure.shown : OnFailure → String
  | abandonFlush => "AbortFlush"
  | runOthers => "SkipDependents"

/-- The shown form of what happens on a panic. -/
def OnPanic.shown : OnPanic → String
  | abort => "Abort"
  | quiet => "Isolate"
  | log => "LogAndContinue"

/-- The shown form of the settings. -/
def Settings.shown (s : Settings) : String :=
  Text.shownRecord "Config" [
    ("compile_threads", Text.shownOption (s.compileWorkers.map toString)),
    ("cache_policy", s.retention.shown),
    ("failure_policy", s.onFailure.shown),
    ("pipelined", Text.shownBool s.pipelined),
    ("compile_timeout", s.compilePatience.text),
    ("dispatch_timeout", s.dispatchPatience.text),
    ("panic_strategy", s.onPanic.shown),
    ("enable_telemetry", Text.shownBool s.telemetry),
    ("stack_size", Text.shownOption (s.stackBytes.map toString)),
    ("thread_name_prefix", Text.quoted s.threadLabel)]

end KernelDispatch
