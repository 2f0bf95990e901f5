/-
  KernelDispatch.Timeline.Basic

  The timeline of one flush: what happened to which task and record, and when.

  A timeline is read for the order in which records started, for the moment at
  which a task had compiled, and for early starts: records that started after the
  compilation of their task had started in the same flush and before it had ended
  well. A task whose artifact comes from an earlier flush has no compilation in
  the timeline, so its records are not early. Marks name tasks by their digests.
-/
import KernelDispatch.Content.Digest
import KernelDispatch.Span
import KernelDispatch.Text.Shown

namespace KernelDispatch

/-- Something that happened to a task or to the record with a sequence number. -/
inductive Mark where
  | buildStarted (digest : Digest)
  | buildEnded (digest : Digest) (ok : Bool)
  | recordStarted (seq : Nat) (digest : Digest)
  | recordEnded (seq : Nat) (digest : Digest) (ok : Bool)
  deriving DecidableEq

/-- The shown form of a mark. -/
def Mark.shown : Mark → String
  | buildStarted h => Text.shownRecord "CompileStarted" [("hash", h.shown)]
  | buildEnded h ok =>
    Text.shownRecord "CompileFinished" [("hash", h.shown), ("ok", Text.shownBool ok)]
  | recordStarted seq h =>
    Text.shownRecord "DispatchStarted" [("seq", toString seq), ("hash", h.shown)]
  | recordEnded seq h ok =>
    Text.shownRecord "DispatchFinished"
      [("seq", toString seq), ("hash", h.shown), ("ok", Text.shownBool ok)]

/-- A mark with its moment. -/
structure TimedMark where
  time : Moment
  mark : Mark
  deriving DecidableEq

/-- The timeline of a flush. -/
structure Timeline where
  flush : Nat
  started : Moment
  finished : Option Moment := none
  marks : List TimedMark := []
  deriving DecidableEq

namespace Timeline

/-- The sequence number in a mark that starts a record. -/
def startedSeq? : Mark → Option Nat
  | .recordStarted seq _ => some seq
  | _ => none

/-- Sequence numbers in the order in which their records started. -/
def startOrder (t : Timeline) : List Nat :=
  t.marks.filterMap fun m => startedSeq? m.mark

/-- The moment of the first good end of a compilation with this digest. -/
def builtAt? (t : Timeline) (digest : Digest) : Option Moment :=
  (t.marks.find? (·.mark = .buildEnded digest true)).map TimedMark.time

/-- Whether a mark starts a compilation. -/
def startsBuild : Mark → Bool
  | .buildStarted _ => true
  | _ => false

/-- The number of compilations that started. -/
def compilations (t : Timeline) : Nat :=
  t.marks.countP fun m => startsBuild m.mark

/-- The early starts among some marks, given the digests whose compilation has started before
them and the good ends of compilations before them. -/
def earlyAfter (scheduled : List Digest) (compiled : List (Digest × Moment)) :
    List TimedMark → List Nat
  | [] => []
  | ⟨_, .buildStarted digest⟩ :: rest => earlyAfter (digest :: scheduled) compiled rest
  | ⟨time, .buildEnded digest true⟩ :: rest =>
    earlyAfter scheduled ((digest, time) :: compiled) rest
  | ⟨time, .recordStarted seq digest⟩ :: rest =>
    -- A good end counts only if its moment is not after the start.
    if digest ∈ scheduled ∧ ¬ compiled.any (fun c => c.1 == digest && c.2 ≤ time) then
      seq :: earlyAfter scheduled compiled rest
    else earlyAfter scheduled compiled rest
  | _ :: rest => earlyAfter scheduled compiled rest

/-- The records that started before their task had compiled in this flush. -/
def earlyStarts (t : Timeline) : List Nat :=
  earlyAfter [] [] t.marks

/-- Whether every mark is at least as late as the one before it. -/
def ordered (t : Timeline) : Bool :=
  (t.marks.zip t.marks.tail).all fun (a, b) => a.time ≤ b.time

end Timeline

end KernelDispatch
