/-
  KernelDispatch.Dispatcher

  A dispatcher as its caller sees it: records are enqueued, and `flush`
  compiles what they need and runs them in order. The state of the dispatcher
  stands beside its telemetry, which watches and never steers.
-/
import KernelDispatch.Flush.Schedule

namespace KernelDispatch

/-- How a call of `flush` ends. -/
inductive FlushAnswer where
  /-- It returns. -/
  | returned (result : Except Failure Report)
  /-- It panics. -/
  | unwound (message : String)
  /-- The process ends before it returns. -/
  | aborted

/-- A dispatcher with its telemetry. -/
structure Dispatcher (C : Type) where
  settings : Settings
  environment : Environment C
  /-- How long calls of the code generator take while a flush is in progress. -/
  pace : Pace := .instant
  state : State C
  tallies : Tallies := {}
  recorder : Recorder := {}

namespace Dispatcher

variable {C : Type}

/-- A dispatcher with `threads` compile workers, opened at the moment `now`. -/
def start (settings : Settings) (environment : Environment C) (pace : Pace) (threads : Nat)
    (now : Moment) : Dispatcher C where
  settings := settings
  environment := environment
  pace := pace
  state := .start threads now
  recorder := { enabled := settings.telemetry }

/-- The telemetry takes note of some events. -/
def observe (q : Dispatcher C) (es : List (Stamped C)) : Dispatcher C :=
  { q with tallies := Event.tally q.tallies es, recorder := Event.observe q.recorder es }

/-- The dispatcher after a move of its caller; a move that is not possible changes nothing. -/
def perform (q : Dispatcher C) (m : Move C) : Dispatcher C :=
  match q.state.step q.settings q.environment m with
  | some (s, es) => { q with state := s }.observe es
  | none => q

/-- Enqueues a record. -/
def enqueue (q : Dispatcher C) (r : Record C) : Dispatcher C :=
  q.perform (.enqueue r)

/-- Enqueues records in order. -/
def enqueueAll (q : Dispatcher C) (rs : List (Record C)) : Dispatcher C :=
  rs.foldl enqueue q

/-- Empties the artifact store. -/
def dropArtifacts (q : Dispatcher C) : Dispatcher C :=
  q.perform .dropArtifacts

/-- The end of `flush` among some events. -/
def answer (es : List (Stamped C)) : FlushAnswer :=
  let ends : Event C → Option FlushAnswer
    | .returned result => some (.returned result)
    | .unwound message => some (.unwound message)
    | _ => none
  (es.findSome? fun e => ends e.2).getD .aborted

/-- Compiles and runs everything enqueued: how that ends, the dispatcher then, and what happened. -/
def flush (q : Dispatcher C) : FlushAnswer × Dispatcher C × List (Stamped C) :=
  let (s, es) := q.state.flush q.settings q.environment q.pace
  (answer es, { q with state := s }.observe es, es)

/-- Lets the compile jobs that are left finish. -/
def settle (q : Dispatcher C) : Dispatcher C × List (Stamped C) :=
  let (s, es) := q.state.settle q.settings q.environment
  ({ q with state := s }.observe es, es)

/-- The number of records enqueued. -/
def length (q : Dispatcher C) : Nat :=
  q.state.backlog.length

/-- The number of artifacts in the store. -/
def artifactCount (q : Dispatcher C) : Nat :=
  q.state.store.readyCount

/-- The timeline of the last finished flush. -/
def lastTimeline? (q : Dispatcher C) : Option Timeline :=
  q.recorder.last

/-- The shown form. -/
def shown (q : Dispatcher C) : String :=
  Text.shownRecord "ExecutionQueue" [
    ("pending", toString q.length),
    ("cache", q.state.store.shown),
    ("compile_pool", q.state.pool.shown),
    ("flush_count", toString q.state.flushes)]

end Dispatcher

end KernelDispatch
