/-
  KernelDispatch.Proofs.Timeline.LastClosed

  Which timeline a recorder holds as the last one.

  A recorder may be told anything in any order. While it has a timeline open, what it has been
  told ends with the start of a flush and with marks only since then (`Stretch`,
  `stretch_of_current`), and a finish that comes next closes it (`ClosedStretch`). So the last
  timeline is that of the latest stretch that was closed, with the marks of its own flush
  (`last_is_latest_closed`).
-/
import Mathlib.Data.List.Infix
import KernelDispatch.Proofs.Timeline.Recording

namespace KernelDispatch.Recorder

/-! ## Stretches -/

/-- What a recorder is told from the start of a flush on, as long as it is told of marks only. -/
structure Stretch where
  flush : Nat
  started : Moment
  told : List (Moment × RecorderOp)
  marksOnly : ∀ op ∈ told, op.2.isMark = true

/-- What a recorder is told from the start of a flush to the finish that closes its timeline. -/
structure ClosedStretch extends Stretch where
  finished : Moment

namespace Stretch

def ops (x : Stretch) : List (Moment × RecorderOp) :=
  (x.started, .start x.flush) :: x.told

/-- The timeline of a stretch has the marks of its own flush. -/
def timeline (x : Stretch) : Timeline where
  flush := x.flush
  started := x.started
  marks := marksIn x.flush x.told

/-- One more mark. -/
def extend (x : Stretch) (now : Moment) (n : Nat) (m : Mark) : Stretch where
  flush := x.flush
  started := x.started
  told := x.told ++ [(now, .mark n m)]
  marksOnly := by
    intro op h_op
    rcases List.mem_append.1 h_op with h_old | h_new
    · exact x.marksOnly op h_old
    · rw [List.mem_singleton.1 h_new]
      rfl

theorem ops_extend (x : Stretch) (now : Moment) (n : Nat) (m : Mark) :
    (x.extend now n m).ops = x.ops ++ [(now, .mark n m)] := rfl

theorem timeline_extend (x : Stretch) (now : Moment) (n : Nat) (m : Mark) :
    (x.extend now n m).timeline = noteMark x.timeline now n m := by
  have h_marks : marksIn x.flush [(now, .mark n m)] = if x.flush = n then [⟨now, m⟩] else [] := by
    by_cases h_own : x.flush = n
    · simp [marksIn, RecorderOp.markIn?, h_own]
    · simp [marksIn, RecorderOp.markIn?, h_own, Ne.symm h_own]
  rw [timeline, extend, marksIn_append, h_marks, noteMark, timeline]
  split
  · rfl
  · rw [List.append_nil]

end Stretch

namespace ClosedStretch

def ops (x : ClosedStretch) : List (Moment × RecorderOp) :=
  x.toStretch.ops ++ [(x.finished, .finish)]

def timeline (x : ClosedStretch) : Timeline :=
  { x.toStretch.timeline with finished := some x.finished }

end ClosedStretch

/-- No timeline is closed by what a recorder is told. -/
def ClosesNone (ops : List (Moment × RecorderOp)) : Prop :=
  ∀ x : ClosedStretch, ¬ x.ops <:+: ops

/-- Of all stretches in what a recorder is told, this one is the latest that is closed. -/
def LatestClosed (x : ClosedStretch) (ops : List (Moment × RecorderOp)) : Prop :=
  ∃ before after, ops = before ++ x.ops ++ after ∧ ClosesNone after

/-- What a recorder is told ends with a stretch that is still open. -/
def EndsOpen (ops : List (Moment × RecorderOp)) : Prop :=
  ∃ x : Stretch, x.ops <:+ ops

variable {ops : List (Moment × RecorderOp)} {r : Recorder} {tl : Timeline}

/-! ## Closing -/

/-- From a start on a stretch is open until a finish. -/
theorem endsOpen_of_start (started : Moment) (n : Nat)
    (h_open : ∀ op ∈ ops, op.2 ≠ .finish) : EndsOpen ((started, .start n) :: ops) := by
  -- From the end: a mark joins the stretch, and a start begins another one.
  induction ops using List.reverseRecOn with
  | nil => exact ⟨⟨n, started, [], by simp⟩, List.suffix_rfl⟩
  | append_singleton ops op ih =>
    obtain ⟨x, before, h_ops⟩ := ih fun op' h_op' => h_open op' (List.mem_append_left _ h_op')
    obtain ⟨now, told⟩ := op
    cases told with
    | start n' => exact ⟨⟨n', now, [], by simp⟩, _ :: ops, rfl⟩
    | mark n' m =>
      refine ⟨x.extend now n' m, before, ?_⟩
      rw [Stretch.ops_extend, ← List.append_assoc, h_ops]
      rfl
    | finish => exact absurd rfl (h_open (now, .finish) (by simp))

/-- A timeline is closed as soon as a finish follows a start. -/
theorem closesNone_iff : ClosesNone ops ↔
    ∀ before time n after, ops = before ++ (time, .start n) :: after →
      ∀ finished, (finished, .finish) ∉ after := by
  constructor
  · rintro h_none before time n after rfl finished h_finish
    -- The finish in question may come too late; the first one closes the stretch open then.
    obtain ⟨⟨now, told⟩, h_first⟩ : ∃ op, after.find? (·.2 = .finish) = some op := by
      rw [← Option.isSome_iff_exists, List.find?_isSome]
      exact ⟨_, h_finish, by simp⟩
    obtain ⟨h_told, during, rest, rfl, h_during⟩ := List.find?_eq_some_iff_append.1 h_first
    obtain rfl : told = .finish := by simpa using h_told
    have h_open : ∀ op ∈ during, op.2 ≠ .finish := by simpa using h_during
    obtain ⟨x, skipped, h_x⟩ := endsOpen_of_start time n h_open
    refine h_none ⟨x, now⟩ ⟨before ++ skipped, rest, ?_⟩
    have h_split : (time, .start n) :: during ++ (now, .finish) :: rest =
        skipped ++ x.ops ++ (now, .finish) :: rest := by rw [h_x]
    simp only [ClosedStretch.ops, List.append_assoc, List.singleton_append] at h_split ⊢
    rw [← h_split]
    rfl
  · rintro h x ⟨before, after, h_ops⟩
    refine h before x.started x.flush (x.told ++ (x.finished, .finish) :: after) ?_ x.finished
      (by simp)
    rw [← h_ops]
    simp [ClosedStretch.ops, Stretch.ops]

/-- A recorder is told of no closed stretch, or one of them is the latest. -/
theorem closesNone_or_latestClosed (ops : List (Moment × RecorderOp)) :
    ClosesNone ops ∨ ∃ x, LatestClosed x ops := by
  induction h_length : ops.length using Nat.strong_induction_on generalizing ops with
  | _ length ih =>
    by_cases h : ClosesNone ops
    · exact .inl h
    · -- Behind a stretch that is closed, less is left to look through.
      simp only [ClosesNone, not_forall, not_not] at h
      obtain ⟨x, before, after, rfl⟩ := h
      have h_less : after.length < length := by
        simp [← h_length, ClosedStretch.ops]
        omega
      rcases ih after.length h_less after rfl with h_none | ⟨y, before', after', rfl, h_none⟩
      · exact .inr ⟨x, before, after, rfl, h_none⟩
      · exact .inr ⟨y, before ++ x.ops ++ before', after', by simp, h_none⟩

/-! ## What a recorder makes of it -/

/-- A recorder that is switched off stays as it is. -/
theorem applyAll_of_disabled (h_off : r.enabled = false) (ops : List (Moment × RecorderOp)) :
    r.applyAll ops = r := by
  induction ops using List.reverseRecOn with
  | nil => rfl
  | append_singleton ops op ih =>
    rw [applyAll_concat, ih, Recorder.apply.eq_def, if_neg (by simp [h_off])]

/-- A stretch makes its timeline the open one, whatever was open before. -/
theorem applyAll_stretch (h_on : r.enabled = true) (x : Stretch) :
    r.applyAll x.ops = { r with current := some x.timeline } := by
  have h_start : r.apply x.started (.start x.flush) =
      { r with current := some { flush := x.flush, started := x.started } } := by
    rw [Recorder.apply.eq_def, if_pos h_on]
  have h_told := applyAll_of_marks ((apply_enabled ..).trans h_on) (congrArg current h_start)
    x.marksOnly
  rw [Stretch.ops, applyAll, List.foldl_cons, ← applyAll]
  refine h_told.trans ?_
  rw [h_start]
  rfl

/-- A stretch that is closed makes its timeline the last one. -/
theorem applyAll_closedStretch (h_on : r.enabled = true) (x : ClosedStretch) :
    r.applyAll x.ops = { r with current := none, last := some x.timeline } := by
  rw [ClosedStretch.ops, applyAll_concat, applyAll_stretch h_on, Recorder.apply.eq_def, if_pos h_on]
  rfl

/-- What a recorder has open is the timeline of the stretch with which it ends what it was told. -/
theorem stretch_of_current (h_on : r.enabled = true) (h_closed : r.current = none)
    (h_current : (r.applyAll ops).current = some tl) :
    ∃ x : Stretch, x.ops <:+ ops ∧ x.timeline = tl := by
  induction ops using List.reverseRecOn generalizing tl with
  | nil => simp [applyAll, h_closed] at h_current
  | append_singleton ops op ih =>
    obtain ⟨now, op⟩ := op
    have h_on' : (r.applyAll ops).enabled = true := (applyAll_enabled ..).trans h_on
    rw [applyAll_concat, Recorder.apply.eq_def, if_pos h_on'] at h_current
    cases op with
    | start n =>
      obtain rfl := Option.some.inj h_current
      exact ⟨⟨n, now, [], by simp⟩, ⟨ops, rfl⟩, rfl⟩
    | mark n m =>
      obtain ⟨open', h_open, rfl⟩ := Option.map_eq_some_iff.1 h_current
      obtain ⟨x, ⟨before, rfl⟩, rfl⟩ := ih h_open
      exact ⟨x.extend now n m, ⟨before, by rw [Stretch.ops_extend, List.append_assoc]⟩,
        x.timeline_extend now n m⟩
    | finish =>
      cases h_open : (r.applyAll ops).current <;> simp [h_open] at h_current

/-- Only a finish with a timeline open changes the last one. -/
theorem last_concat (h_on : r.enabled = true) (h_closed : r.current = none) {now : Moment}
    {op : RecorderOp} (h_op : op = .finish → ¬ EndsOpen ops) :
    (r.applyAll (ops ++ [(now, op)])).last = (r.applyAll ops).last := by
  rw [applyAll_concat, Recorder.apply.eq_def, if_pos ((applyAll_enabled ..).trans h_on)]
  cases op with
  | start | mark => rfl
  | finish =>
    cases h_current : (r.applyAll ops).current with
    | none => simp
    | some tl =>
      obtain ⟨x, h_x, -⟩ := stretch_of_current h_on h_closed h_current
      exact absurd ⟨x, h_x⟩ (h_op rfl)

theorem last_of_closesNone (h_on : r.enabled = true) (h_closed : r.current = none)
    (h_none : ClosesNone ops) : (r.applyAll ops).last = r.last := by
  induction ops using List.reverseRecOn with
  | nil => rfl
  | append_singleton ops op ih =>
    obtain ⟨now, op⟩ := op
    have h_before : ClosesNone ops := fun x h_x =>
      h_none x (h_x.trans (List.prefix_append ..).isInfix)
    rw [last_concat h_on h_closed, ih h_before]
    rintro rfl ⟨x, before, rfl⟩
    exact h_none ⟨x, now⟩ ⟨before, [], by simp [ClosedStretch.ops]⟩

/-- The last timeline is that of the latest stretch that was closed. -/
theorem LatestClosed.last_eq {x : ClosedStretch} (h : LatestClosed x ops)
    (h_on : r.enabled = true) : (r.applyAll ops).last = some x.timeline := by
  obtain ⟨before, after, rfl, h_none⟩ := h
  -- What came before the stretch is replaced by it, and what comes after closes nothing more.
  have h_before : (r.applyAll before).enabled = true := (applyAll_enabled ..).trans h_on
  rw [applyAll_append, applyAll_append, applyAll_closedStretch h_before]
  exact last_of_closesNone (r := { r.applyAll before with current := none, last := _ }) h_before rfl
    h_none

/-- Whatever a new recorder is told: it has no last timeline until a finish follows a start; then
the last one is that of the latest start that a finish has closed before another start replaced it,
with the marks of its own flush in between, in order. Nothing but a finish with a timeline open
changes it. A recorder that is switched off has none. -/
theorem last_is_latest_closed (ops : List (Moment × RecorderOp)) :
    ((applyAll {} ops).last = none ↔
      ∀ before time n after, ops = before ++ (time, .start n) :: after →
        ∀ finished, (finished, .finish) ∉ after) ∧
    (∀ tl, (applyAll {} ops).last = some tl ↔ ∃ x, LatestClosed x ops ∧ x.timeline = tl) ∧
    (∀ now op, (op = .finish → ¬ EndsOpen ops) →
      (applyAll {} (ops ++ [(now, op)])).last = (applyAll {} ops).last) ∧
    (applyAll { enabled := false } ops).last = none := by
  have h_cases := closesNone_or_latestClosed ops
  refine ⟨?_, fun tl => ⟨fun h_last => ?_, ?_⟩, fun now op h_op => last_concat rfl rfl h_op, ?_⟩
  · rw [← closesNone_iff]
    refine ⟨fun h_last => h_cases.resolve_right ?_, fun h => last_of_closesNone rfl rfl h⟩
    rintro ⟨x, h_x⟩
    simp [h_x.last_eq] at h_last
  · rcases h_cases with h_none | ⟨x, h_x⟩
    · rw [last_of_closesNone (r := {}) rfl rfl h_none] at h_last
      cases h_last
    · exact ⟨x, h_x, Option.some.inj ((h_x.last_eq rfl).symm.trans h_last)⟩
  · rintro ⟨x, h_x, rfl⟩
    exact h_x.last_eq rfl
  · rw [applyAll_of_disabled rfl]

/-- Three flushes start. The second replaces the first, which leaves a mark even so, and is closed;
the third stays open. -/
def threeStarts : List (Moment × RecorderOp) :=
  [(0, .finish), (1, .start 1), (2, .mark 1 (.buildStarted ⟨5⟩)), (3, .start 2),
    (4, .mark 2 (.buildStarted ⟨6⟩)), (5, .mark 1 (.buildEnded ⟨5⟩ true)),
    (6, .mark 2 (.buildEnded ⟨6⟩ true)), (7, .finish), (8, .mark 2 (.recordStarted 0 ⟨6⟩)),
    (9, .start 3), (10, .mark 3 (.buildStarted ⟨6⟩))]

theorem second_of_three_flushes_is_last :
    (∃ x, LatestClosed x threeStarts ∧ x.timeline = ⟨2, 3, some 7,
      [⟨4, .buildStarted ⟨6⟩⟩, ⟨6, .buildEnded ⟨6⟩ true⟩]⟩) ∧
    (applyAll {} (threeStarts ++ [(11, .start 4)])).last = (applyAll {} threeStarts).last := by
  obtain ⟨-, h_last, h_same, -⟩ := last_is_latest_closed threeStarts
  exact ⟨(h_last _).1 (by decide), h_same 11 (.start 4) (by simp)⟩

end KernelDispatch.Recorder
