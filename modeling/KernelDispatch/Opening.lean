/-
  KernelDispatch.Opening

  Opening a dispatcher: its settings are checked and its threads are started, the
  compile workers one after the other and then the launch thread.

  Opening is all or nothing. If a thread cannot be started, every thread started
  before it is stopped and joined, and there is no dispatcher. A thread's name
  may hold no NUL; a name that does makes the opening thread panic.
-/
import KernelDispatch.Journal
import KernelDispatch.Settings

namespace KernelDispatch

/-- What happens to a thread while a dispatcher is opened. -/
inductive ThreadEvent where
  | started (name : String)
  /-- The thread has been told to stop, and it has ended. -/
  | stopped (name : String)
  deriving DecidableEq

/-- What starting some threads comes to. -/
inductive Opening where
  /-- All of them run. -/
  | opened
  /-- They do not run, for this reason. -/
  | refused (reason : Failure)
  /-- The thread that started them has panicked. -/
  | unwound (message : String)
  deriving DecidableEq

namespace Opening

/-- The answers of a host to the starts of threads, in order: nothing for a thread that runs, or
why it cannot be started. -/
abbrev Host := Nat → Option String

/-- The failure of a thread that cannot be started. -/
def spawnFailure (reason : String) : Failure :=
  .threads ("spawn failed: " ++ reason)

/-- The shown form of a byte string. -/
def shownBytes (bytes : List UInt8) : String :=
  Text.shownList (bytes.map fun b => toString b.toNat)

/-- The panic at a name that holds a NUL: its place and all bytes of the name. -/
def nulMessage (name : String) : String :=
  let bytes := name.toUTF8.data.toList
  "thread name may not contain interior null bytes: NulError("
    ++ toString (bytes.idxOf 0) ++ ", " ++ shownBytes bytes ++ ")"

/-- What starting one thread comes to, if it is the start with this number. -/
def startOne (host : Host) (number : Nat) (name : String) : Opening :=
  if name.toList.contains '\x00' then .unwound (nulMessage name)
  else
    match host number with
    | some reason => .refused (spawnFailure reason)
    | none => .opened

/-- Starts threads one after the other. A refused start stops the threads that run. -/
def startAll (host : Host) (number : Nat) (runs : List String) :
    List String → List ThreadEvent × Opening
  | [] => ([], .opened)
  | name :: names =>
    match startOne host number name with
    | .opened =>
      let (events, result) := startAll host (number + 1) (runs ++ [name]) names
      (.started name :: events, result)
    | .refused reason => (runs.map .stopped, .refused reason)
    -- A panic leaves at once: the threads that run are not told to stop.
    | .unwound message => ([], .unwound message)

/-- The names of the compile workers. -/
def workerNames (cfg : Settings) (threads : Nat) : List String :=
  (List.range threads).map cfg.compileThreadName

/-- Starts the compile workers of a pool. -/
def startPool (cfg : Settings) (cores : Nat) (host : Host) : List ThreadEvent × Opening :=
  match cfg.threadCount cores with
  | 0 => ([], .refused (.settings "need at least 1 compile thread"))
  | threads => startAll host 0 [] (workerNames cfg threads)

/-- What is logged when the compile workers run. -/
def poolNotice (cfg : Settings) (cores : Nat) : Notice :=
  .poolStarted (cfg.threadCount cores)

/-- Starts the launch thread, as the start with the given number. -/
def startLaunch (cfg : Settings) (host : Host) (number : Nat) : List ThreadEvent × Opening :=
  startAll host number [] [cfg.launchThreadName]

/-- Opens a dispatcher on a machine with some cores. -/
def dispatcher (cfg : Settings) (cores : Nat) (host : Host) : List ThreadEvent × Opening :=
  match cfg.fault? with
  | some fault => ([], .refused fault.failure)
  | none =>
    match startPool cfg cores host with
    | (events, .opened) =>
      let threads := cfg.threadCount cores
      match startLaunch cfg host threads with
      | (more, .opened) => (events ++ more, .opened)
      | (more, result) => (events ++ more ++ (workerNames cfg threads).map .stopped, result)
    | (events, result) => (events, result)

end Opening

end KernelDispatch
