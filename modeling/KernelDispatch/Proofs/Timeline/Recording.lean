/-
  KernelDispatch.Proofs.Timeline.Recording

  What a recorder keeps.

  The timeline of a flush holds all marks of that flush, as long as no flush starts after it
  has left a mark; the one that was closed last holds those from before it was closed
  (`kept_of_orderly`).
-/
import Mathlib.Data.List.Induction
import KernelDispatch.Timeline.Recorder

namespace KernelDispatch

/-- Whether a recorder is told that something happened. -/
def RecorderOp.isMark : RecorderOp → Bool
  | .mark .. => true
  | _ => false

/-- What a recorder is told of on behalf of a flush. -/
def RecorderOp.markIn? (n : Nat) : RecorderOp → Option Mark
  | .mark flush m => if flush = n then some m else none
  | _ => none

/-- The marks of a flush among what a recorder is told. -/
def marksIn (n : Nat) (ops : List (Moment × RecorderOp)) : List TimedMark :=
  ops.filterMap fun op => (op.2.markIn? n).map (TimedMark.mk op.1)

theorem marksIn_append (n : Nat) (ops ops' : List (Moment × RecorderOp)) :
    marksIn n (ops ++ ops') = marksIn n ops ++ marksIn n ops' :=
  List.filterMap_append

namespace Recorder

theorem applyAll_append (r : Recorder) (ops ops' : List (Moment × RecorderOp)) :
    r.applyAll (ops ++ ops') = (r.applyAll ops).applyAll ops' :=
  List.foldl_append

theorem applyAll_concat (r : Recorder) (ops : List (Moment × RecorderOp)) (now : Moment)
    (op : RecorderOp) : r.applyAll (ops ++ [(now, op)]) = (r.applyAll ops).apply now op :=
  applyAll_append r ops [(now, op)]

theorem apply_enabled (r : Recorder) (now : Moment) (op : RecorderOp) :
    (r.apply now op).enabled = r.enabled := by
  unfold apply
  split
  · cases op with
    | start | mark => rfl
    | finish => cases r.current <;> rfl
  · rfl

theorem applyAll_enabled (r : Recorder) (ops : List (Moment × RecorderOp)) :
    (r.applyAll ops).enabled = r.enabled := by
  induction ops generalizing r with
  | nil => rfl
  | cons op ops ih => exact (ih _).trans (apply_enabled ..)

/-- Marks go into the open timeline, if they are its own. -/
theorem applyAll_of_marks {r : Recorder} {tl : Timeline} {ops : List (Moment × RecorderOp)}
    (h_on : r.enabled = true) (h_current : r.current = some tl)
    (h_marks : ∀ op ∈ ops, op.2.isMark = true) :
    r.applyAll ops =
      { r with current := some { tl with marks := tl.marks ++ marksIn tl.flush ops } } := by
  induction ops generalizing r tl with
  | nil => simp [applyAll, marksIn, ← h_current]
  | cons op ops ih =>
    obtain ⟨now, told⟩ := op
    obtain ⟨n, mark, rfl⟩ : ∃ n mark, told = .mark n mark := by
      have h_told := h_marks (now, told) (List.mem_cons_self ..)
      cases told with
      | mark n mark => exact ⟨n, mark, rfl⟩
      | start | finish => cases h_told
    have h_next : r.apply now (.mark n mark) =
        { r with current := some (noteMark tl now n mark) } := by
      simp [apply, h_on, h_current]
    have h_noted : (r.apply now (.mark n mark)).current = some (noteMark tl now n mark) := by
      rw [h_next]
    have h_rest := ih ((apply_enabled ..).trans h_on) h_noted
      fun op h_op => h_marks op (List.mem_cons_of_mem _ h_op)
    rw [applyAll, List.foldl_cons]
    refine h_rest.trans ?_
    by_cases h_own : tl.flush = n
    · simp [h_next, noteMark, h_own, marksIn, RecorderOp.markIn?]
    · simp [h_next, noteMark, h_own, Ne.symm h_own, marksIn, RecorderOp.markIn?]

/-- No flush has left a mark before it starts. -/
def Orderly (ops : List (Moment × RecorderOp)) : Prop :=
  ∀ before time n after, ops = before ++ (time, .start n) :: after → marksIn n before = []

/-- A recorder that has been told all this. -/
structure Kept (ops : List (Moment × RecorderOp)) (r : Recorder) : Prop where
  enabled : r.enabled = true
  current : ∀ t, r.current = some t →
    (∃ time, (time, .start t.flush) ∈ ops) ∧ t.marks = marksIn t.flush ops
  last : ∀ t, r.last = some t → ∃ before time after, ops = before ++ (time, .finish) :: after ∧
    (∃ time, (time, .start t.flush) ∈ before) ∧ t.marks = marksIn t.flush before

theorem Kept.apply {ops : List (Moment × RecorderOp)} {r : Recorder} (h : Kept ops r)
    (now : Moment) (op : RecorderOp) (h_start : ∀ n, op = .start n → marksIn n ops = []) :
    Kept (ops ++ [(now, op)]) (r.apply now op) := by
  -- The timeline that was closed last stays what it was until another one is closed.
  have h_last (t : Timeline) (h_t : r.last = some t) : ∃ before time after,
      ops ++ [(now, op)] = before ++ (time, .finish) :: after ∧
        (∃ time, (time, .start t.flush) ∈ before) ∧ t.marks = marksIn t.flush before := by
    obtain ⟨before, time, after, rfl, h_kept⟩ := h.last t h_t
    exact ⟨before, time, after ++ [(now, op)], by simp, h_kept⟩
  rw [Recorder.apply.eq_def, if_pos h.enabled]
  cases op with
  | start n =>
    refine ⟨h.enabled, ?_, h_last⟩
    rintro t ⟨rfl⟩
    refine ⟨⟨now, by simp⟩, ?_⟩
    rw [marksIn_append, h_start n rfl]
    rfl
  | mark n m =>
    refine ⟨h.enabled, fun t' h_t' => ?_, h_last⟩
    obtain ⟨t, h_t, rfl⟩ := Option.map_eq_some_iff.1 h_t'
    obtain ⟨⟨time, h_begun⟩, h_marks⟩ := h.current t h_t
    rw [marksIn_append, noteMark]
    split
    · next h_own =>
      refine ⟨⟨time, List.mem_append_left _ h_begun⟩, ?_⟩
      simp [marksIn, RecorderOp.markIn?, h_marks, h_own]
    · next h_other =>
      refine ⟨⟨time, List.mem_append_left _ h_begun⟩, ?_⟩
      simp [marksIn, RecorderOp.markIn?, h_marks, Ne.symm h_other]
  | finish =>
    cases h_current : r.current with
    | none =>
      refine ⟨h.enabled, fun t h_t => ?_, h_last⟩
      simp [h_current] at h_t
    | some t =>
      refine ⟨h.enabled, ?_, ?_⟩
      · rintro t' ⟨⟩
      · rintro t' ⟨rfl⟩
        exact ⟨ops, now, [], rfl, h.current t h_current⟩

/-- The timelines that a recorder keeps hold the marks of their flushes. -/
theorem kept_of_orderly {ops : List (Moment × RecorderOp)} (h : Orderly ops) :
    Kept ops (applyAll {} ops) := by
  -- From the end: a recorder is told one thing after the other.
  induction ops using List.reverseRecOn with
  | nil => exact ⟨rfl, by simp [applyAll], by simp [applyAll]⟩
  | append_singleton ops op ih =>
    obtain ⟨now, op⟩ := op
    have h_before : Orderly ops := by
      rintro before time n after rfl
      exact h before time n (after ++ [(now, op)]) (by simp)
    rw [applyAll_concat]
    refine (ih h_before).apply now op ?_
    rintro n rfl
    exact h ops now n [] rfl

end Recorder

end KernelDispatch
