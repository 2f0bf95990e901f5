/-
  KernelDispatch.Proofs.Timeline.Audit

  What the audit of a timeline finds.

  The audit goes through the marks once. It reports, in order, the records that stand after a
  start of a compilation with their digest and after no good end of one that is not later in
  time (`earlyStarts_eq`). If the times of the marks increase, nothing changes when the
  first good end is looked up in the timeline as a whole instead
  (`audit_agrees_with_builtAt`).
-/
import Mathlib.Data.List.Infix
import KernelDispatch.Timeline.Basic

namespace KernelDispatch.Timeline

/-! ## Records that look early -/

/-- Between these marks and its own, at the moment `time`, a record looks as if its task had not
compiled: a compilation with this digest has started and none has ended well. -/
structure Premature (before : List TimedMark) (time : Moment) (digest : Digest) : Prop where
  started : ∃ m ∈ before, m.mark = .buildStarted digest
  unfinished : ∀ m ∈ before, m.mark = .buildEnded digest true → time < m.time

instance (before : List TimedMark) (time : Moment) (digest : Digest) :
    Decidable (Premature before time digest) :=
  decidable_of_iff ((∃ m ∈ before, m.mark = .buildStarted digest) ∧
      ∀ m ∈ before, m.mark = .buildEnded digest true → time < m.time)
    ⟨fun h => ⟨h.1, h.2⟩, fun h => ⟨h.started, h.unfinished⟩⟩

section Starts

variable (P : List TimedMark → Moment → Digest → Prop)
  [∀ before time digest, Decidable (P before time digest)]

/-- The sequence number in a mark that starts a record, if this is so by the marks before it, by its
moment and by its digest. -/
def seqIf? (before : List TimedMark) (x : TimedMark) : Option Nat :=
  match x.mark with
  | .recordStarted seq digest => if P before x.time digest then some seq else none
  | _ => none

/-- The sequence numbers in the marks that start a record when this is so, in the order of the
marks. -/
def startsWhere (marks : List TimedMark) : List Nat :=
  (marks.inits.zip marks).filterMap fun p => seqIf? P p.1 p.2

theorem seqIf?_eq_some {before : List TimedMark} {x : TimedMark} {seq : Nat} :
    seqIf? P before x = some seq ↔
      ∃ digest, x.mark = .recordStarted seq digest ∧ P before x.time digest := by
  obtain ⟨time, mark⟩ := x
  cases mark with
  | recordStarted s digest =>
    by_cases h : P before time digest <;> simp [seqIf?, h]
  | _ => simp [seqIf?]

end Starts

/-- A list with what stands before each element holds all ways to cut the list at an element. -/
theorem mem_inits_zip {α : Type} {xs before : List α} {x : α} :
    (before, x) ∈ xs.inits.zip xs ↔ ∃ after, xs = before ++ x :: after := by
  induction xs generalizing before with
  | nil => simp
  | cons y ys ih =>
    rw [List.inits_cons, List.zip_cons_cons, List.mem_cons, List.zip_map_left, List.mem_map]
    constructor
    · rintro (h_first | ⟨⟨past, z⟩, h_later, h_eq⟩)
      · obtain ⟨rfl, rfl⟩ := Prod.mk.inj h_first
        exact ⟨ys, rfl⟩
      · obtain ⟨rfl, rfl⟩ := Prod.mk.inj h_eq
        obtain ⟨after, rfl⟩ := ih.1 h_later
        exact ⟨after, rfl⟩
    · rintro ⟨after, h_cut⟩
      rcases List.cons_eq_append_iff.1 h_cut with ⟨rfl, h_rest⟩ | ⟨past, rfl, rfl⟩
      · obtain ⟨rfl, -⟩ := List.cons.inj h_rest
        exact .inl rfl
      · exact .inr ⟨(past, x), ih.2 ⟨after, rfl⟩, rfl⟩

/-- A mark starts a record that looks early. -/
def StartsEarly (seq : Nat) (before : List TimedMark) (x : TimedMark) : Prop :=
  ∃ digest, x.mark = .recordStarted seq digest ∧ Premature before x.time digest

/-! ## One pass -/

/-- What the audit has noted of the marks that it has passed. -/
structure Noted (past : List TimedMark) (scheduled : List Digest)
    (compiled : List (Digest × Moment)) : Prop where
  scheduled : ∀ digest, digest ∈ scheduled ↔ ∃ m ∈ past, m.mark = .buildStarted digest
  compiled : ∀ digest time, (digest, time) ∈ compiled ↔
    ∃ m ∈ past, m.mark = .buildEnded digest true ∧ m.time = time

namespace Noted

variable {past : List TimedMark} {scheduled : List Digest} {compiled : List (Digest × Moment)}

/-- A mark of no start and of no good end leaves the notes as they are. -/
theorem pass (h : Noted past scheduled compiled) {x : TimedMark}
    (h_start : ∀ digest, x.mark ≠ .buildStarted digest)
    (h_end : ∀ digest, x.mark ≠ .buildEnded digest true) :
    Noted (past ++ [x]) scheduled compiled where
  scheduled digest := by
    rw [h.scheduled]
    simp [or_and_right, exists_or, h_start]
  compiled digest time := by
    rw [h.compiled]
    simp [or_and_right, exists_or, h_end]

theorem buildStarted (h : Noted past scheduled compiled) (time : Moment) (digest : Digest) :
    Noted (past ++ [⟨time, .buildStarted digest⟩]) (digest :: scheduled) compiled where
  scheduled d := by
    simp only [List.mem_cons, h.scheduled, List.mem_append, or_and_right, exists_or]
    simp [or_comm, eq_comm]
  compiled d t := by
    rw [h.compiled]
    simp [or_and_right, exists_or]

theorem buildEnded (h : Noted past scheduled compiled) (time : Moment) (digest : Digest) :
    Noted (past ++ [⟨time, .buildEnded digest true⟩]) scheduled ((digest, time) :: compiled) where
  scheduled d := by
    rw [h.scheduled]
    simp [or_and_right, exists_or]
  compiled d t := by
    simp only [List.mem_cons, h.compiled, List.mem_append, or_and_right, exists_or]
    simp [or_comm, eq_comm]

/-- By its notes the audit sees whether a record looks early. -/
theorem premature_iff (h : Noted past scheduled compiled) {time : Moment} {digest : Digest} :
    (digest ∈ scheduled ∧ ¬ compiled.any (fun c => c.1 == digest && c.2 ≤ time)) ↔
      Premature past time digest := by
  rw [h.scheduled]
  simp only [List.any_eq_true, Bool.and_eq_true, beq_iff_eq, decide_eq_true_eq, not_exists,
    not_and, Nat.not_le]
  constructor
  · rintro ⟨h_started, h_none⟩
    exact ⟨h_started, fun m h_m h_mark =>
      h_none (digest, m.time) ((h.compiled _ _).2 ⟨m, h_m, h_mark, rfl⟩) rfl⟩
  · rintro ⟨h_started, h_unfinished⟩
    refine ⟨h_started, ?_⟩
    rintro ⟨d, t⟩ h_c rfl
    obtain ⟨m, h_m, h_mark, rfl⟩ := (h.compiled d t).1 h_c
    exact h_unfinished m h_m h_mark

end Noted

/-- The audit judges every record by the marks before its own. -/
theorem earlyAfter_eq {past : List TimedMark} {scheduled : List Digest}
    {compiled : List (Digest × Moment)} (h : Noted past scheduled compiled) (ms : List TimedMark) :
    earlyAfter scheduled compiled ms =
      ((ms.inits.map (past ++ ·)).zip ms).filterMap fun p => seqIf? Premature p.1 p.2 := by
  -- From the front: each mark that is passed joins those before the rest.
  induction ms generalizing past scheduled compiled with
  | nil => simp [earlyAfter]
  | cons x ms ih =>
    have h_rest : (ms.inits.map fun before => x :: before).map (past ++ ·) =
        ms.inits.map (past ++ [x] ++ ·) := by simp
    rw [List.inits_cons, List.map_cons, List.zip_cons_cons, List.append_nil, h_rest]
    obtain ⟨time, mark⟩ := x
    cases mark with
    | buildStarted digest =>
      rw [List.filterMap_cons_none rfl, ← ih (h.buildStarted time digest)]
      rfl
    | buildEnded digest ok =>
      cases ok with
      | true =>
        rw [List.filterMap_cons_none rfl, ← ih (h.buildEnded time digest)]
        rfl
      | false =>
        rw [List.filterMap_cons_none rfl, ← ih (h.pass (by simp) (by simp))]
        rfl
    | recordStarted s digest =>
      rw [List.filterMap_cons, ← ih (h.pass (by simp) (by simp)), earlyAfter]
      by_cases h_premature : Premature past time digest
      · rw [if_pos (h.premature_iff.2 h_premature)]
        simp [seqIf?, h_premature]
      · rw [if_neg (mt h.premature_iff.1 h_premature)]
        simp [seqIf?, h_premature]
    | recordEnded s digest ok =>
      rw [List.filterMap_cons_none rfl, ← ih (h.pass (by simp) (by simp))]
      rfl

/-- The audit reports the records that look early after the marks before their own. -/
theorem earlyStarts_eq (t : Timeline) : t.earlyStarts = startsWhere Premature t.marks := by
  have h_empty : Noted [] [] [] := ⟨by simp, by simp⟩
  simpa [startsWhere, earlyStarts] using earlyAfter_eq h_empty t.marks

/-- A record is an early start exactly if it looks early after the marks before its own. -/
theorem mem_earlyStarts_iff {t : Timeline} {seq : Nat} :
    seq ∈ t.earlyStarts ↔
      ∃ before x after, t.marks = before ++ x :: after ∧ StartsEarly seq before x := by
  rw [earlyStarts_eq, startsWhere, List.mem_filterMap]
  constructor
  · rintro ⟨⟨before, x⟩, h_x, h_seq⟩
    obtain ⟨after, h_cut⟩ := mem_inits_zip.1 h_x
    exact ⟨before, x, after, h_cut, (seqIf?_eq_some Premature).1 h_seq⟩
  · rintro ⟨before, x, after, h_cut, h_early⟩
    exact ⟨(before, x), mem_inits_zip.2 ⟨after, h_cut⟩, (seqIf?_eq_some Premature).2 h_early⟩

/-! ## Looking up the first good end -/

/-- By the moment at which the timeline says that its task has compiled, a record that starts at the
moment `time` after these marks looks as if it had not: a compilation with its digest has started,
and the first good end of one, if there is any, is later. -/
structure BuiltLater (t : Timeline) (before : List TimedMark) (time : Moment) (digest : Digest) :
    Prop where
  started : ∃ m ∈ before, m.mark = .buildStarted digest
  later : ∀ built ∈ t.builtAt? digest, time < built

instance (t : Timeline) (before : List TimedMark) (time : Moment) (digest : Digest) :
    Decidable (t.BuiltLater before time digest) :=
  decidable_of_iff ((∃ m ∈ before, m.mark = .buildStarted digest) ∧
      ∀ built ∈ t.builtAt? digest, time < built)
    ⟨fun h => ⟨h.1, h.2⟩, fun h => ⟨h.started, h.later⟩⟩

theorem mem_builtAt? {t : Timeline} {digest : Digest} {built : Moment} :
    built ∈ t.builtAt? digest ↔
      ∃ m, t.marks.find? (·.mark = .buildEnded digest true) = some m ∧ m.time = built := by
  rw [builtAt?, Option.mem_def, Option.map_eq_some_iff]

/-- If the times of the marks increase, a good end before the start of a record is one that is
earlier in time. -/
theorem premature_iff_builtLater {t : Timeline} {before after : List TimedMark} {x : TimedMark}
    {seq : Nat} {digest : Digest} (h_times : t.marks.Pairwise (·.time < ·.time))
    (h_cut : t.marks = before ++ x :: after) (h_mark : x.mark = .recordStarted seq digest) :
    Premature before x.time digest ↔ t.BuiltLater before x.time digest := by
  rw [h_cut, List.pairwise_append, List.pairwise_cons] at h_times
  obtain ⟨-, ⟨h_after, -⟩, h_before⟩ := h_times
  constructor
  · rintro ⟨h_started, h_unfinished⟩
    refine ⟨h_started, fun built h_built => ?_⟩
    obtain ⟨m, h_find, rfl⟩ := mem_builtAt?.1 h_built
    have h_end : m.mark = .buildEnded digest true := by simpa using List.find?_some h_find
    have h_mem : m ∈ before ++ x :: after := h_cut ▸ List.mem_of_find?_eq_some h_find
    rcases List.mem_append.1 h_mem with h_m | h_m
    · exact h_unfinished m h_m h_end
    · rcases List.mem_cons.1 h_m with rfl | h_m
      · simp [h_mark] at h_end
      · exact h_after m h_m
  · rintro ⟨h_started, h_later⟩
    refine ⟨h_started, fun m h_m h_end => ?_⟩
    -- The first good end stands before the record as well, and would be too early.
    obtain ⟨first, h_first⟩ : ∃ first, before.find? (·.mark = .buildEnded digest true) =
        some first := by
      rw [← Option.isSome_iff_exists, List.find?_isSome]
      exact ⟨m, h_m, by simpa using h_end⟩
    have h_find : t.marks.find? (·.mark = .buildEnded digest true) = some first := by
      rw [h_cut, List.find?_append, h_first, Option.some_or]
    have h_early : first.time < x.time :=
      h_before first (List.mem_of_find?_eq_some h_first) x (List.mem_cons_self ..)
    have h_late : x.time < first.time := h_later _ (mem_builtAt?.2 ⟨first, h_find, rfl⟩)
    exact absurd h_early (Nat.lt_asymm h_late)

/-- The audit reports, in the order of the marks, the records that start after a compilation with
their digest has started and after no good end of one, by place and by time. If the times of the
marks increase, these are the records that start before the moment at which the timeline says that
their task has compiled. -/
theorem audit_agrees_with_builtAt (t : Timeline) :
    t.earlyStarts = startsWhere Premature t.marks ∧
      (t.marks.Pairwise (·.time < ·.time) →
        t.earlyStarts = startsWhere t.BuiltLater t.marks) := by
  refine ⟨earlyStarts_eq t, fun h_times => ?_⟩
  rw [earlyStarts_eq, startsWhere, startsWhere]
  refine List.filterMap_congr fun ⟨before, x⟩ h_x => ?_
  obtain ⟨after, h_cut⟩ := mem_inits_zip.1 h_x
  refine Option.ext fun seq => ?_
  rw [seqIf?_eq_some, seqIf?_eq_some]
  refine exists_congr fun digest => and_congr_right fun h_mark => ?_
  exact premature_iff_builtLater h_times h_cut h_mark

/-- Four records of one task: before anything is compiled, during a compilation that fails, after
it, and after a second one that does not fail. -/
def compiledTwice : Timeline where
  flush := 1
  started := 0
  marks :=
    [⟨1, .recordStarted 0 ⟨9⟩⟩, ⟨2, .buildStarted ⟨9⟩⟩, ⟨3, .recordStarted 1 ⟨9⟩⟩,
      ⟨4, .buildEnded ⟨9⟩ false⟩, ⟨5, .recordStarted 2 ⟨9⟩⟩, ⟨6, .buildStarted ⟨9⟩⟩,
      ⟨7, .buildEnded ⟨9⟩ true⟩, ⟨8, .recordStarted 3 ⟨9⟩⟩]

theorem two_of_four_records_are_early :
    compiledTwice.marks.Pairwise (·.time < ·.time) ∧
      compiledTwice.earlyStarts = startsWhere Premature compiledTwice.marks ∧
      compiledTwice.earlyStarts = startsWhere compiledTwice.BuiltLater compiledTwice.marks ∧
      compiledTwice.builtAt? ⟨9⟩ = some 7 ∧ compiledTwice.earlyStarts = [1, 2] := by
  have h_times : compiledTwice.marks.Pairwise (·.time < ·.time) := by decide
  obtain ⟨h_placed, h_timed⟩ := audit_agrees_with_builtAt compiledTwice
  exact ⟨h_times, h_placed, h_timed h_times, by decide, by decide⟩

end KernelDispatch.Timeline
