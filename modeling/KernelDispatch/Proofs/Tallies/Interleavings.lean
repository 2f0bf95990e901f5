/-
  KernelDispatch.Proofs.Tallies.Interleavings

  Figures do not depend on the order of the measurements.

  A bin is told by its first value (`LatencyBin.ofNanos_eq_of_first_eq`), so two
  durations leave the same bins in either order (`Latency.record_comm`). A measurement
  is a sequence of updates that no thread can divide (`Measurement.updates`), and any
  two updates have the same effect in either order (`Tallies.update_comm`). So threads
  may interleave between measurements and within them
  (`figures_ignore_interleaving`). What the figures are figures of is the number of
  measurements of each kind and of durations in each bin.
-/
import Mathlib.Algebra.GroupWithZero.Nat
import KernelDispatch.Proofs.Tallies.Measures

namespace KernelDispatch

/-! ## Bins -/

namespace LatencyBin

/-- From 2048 on a bin drops the bits below the highest eleven. -/
theorem ofValue_of_log2 {v b : Nat} (h_large : 2048 ≤ v) (h_log : v.log2 = b + 10) :
    ofValue v = ⟨v / 2 ^ b * 2 ^ b, 2 ^ b⟩ := by
  simp only [ofValue, if_neg (Nat.not_lt.2 h_large), h_log, Nat.add_sub_cancel,
    Nat.shiftRight_eq_div_pow, Nat.shiftLeft_eq, Nat.one_mul]

/-- The first value of a bin is in the bin. -/
theorem ofValue_first (v : Nat) : ofValue (ofValue v).first = ofValue v := by
  by_cases h_small : v < 2048
  · simp [ofValue, h_small]
  · have h_eleven : 11 ≤ v.log2 := (Nat.le_log2 (by omega)).2 (by omega)
    obtain ⟨b, h_log⟩ : ∃ b, v.log2 = b + 10 := ⟨v.log2 - 10, by omega⟩
    obtain ⟨h_le, h_lt⟩ := (Nat.log2_eq_iff (by omega)).1 h_log
    rw [ofValue_of_log2 (by omega) h_log]
    -- The first value has as many bits as `v`, since the highest one is not dropped.
    have h_top : 2 ^ 10 ≤ v / 2 ^ b := by
      rw [Nat.le_div_iff_mul_le (Nat.two_pow_pos b), ← Nat.pow_add, Nat.add_comm]
      exact h_le
    have h_first_le : 2 ^ (b + 10) ≤ v / 2 ^ b * 2 ^ b := by
      rw [Nat.add_comm, Nat.pow_add]
      exact Nat.mul_le_mul_right _ h_top
    have h_first_lt : v / 2 ^ b * 2 ^ b < 2 ^ (b + 10 + 1) :=
      Nat.lt_of_le_of_lt (Nat.div_mul_le_self v _) h_lt
    have h_large : 2 ^ 11 ≤ 2 ^ (b + 10) := Nat.pow_le_pow_right (by decide) (by omega)
    have h_first_log : (v / 2 ^ b * 2 ^ b).log2 = b + 10 :=
      (Nat.log2_eq_iff (by omega)).2 ⟨h_first_le, h_first_lt⟩
    rw [ofValue_of_log2 (by omega) h_first_log, Nat.mul_div_cancel _ (Nat.two_pow_pos b)]

/-- The bins of durations are told apart by their first values. -/
theorem ofNanos_eq_of_first_eq {m n : Nat} (h : (ofNanos m).first = (ofNanos n).first) :
    ofNanos m = ofNanos n := by
  unfold ofNanos at h ⊢
  rw [← ofValue_first, h, ofValue_first]

end LatencyBin

/-! ## Collections of durations -/

namespace Latency

theorem bump_comm_of_lt {b c : LatencyBin} (h : b.first < c.first)
    (bins : List (LatencyBin × Nat)) : bump b (bump c bins) = bump c (bump b bins) := by
  induction bins with
  | nil => grind [bump]
  | cons bin rest ih => grind [bump]

/-- Durations are recorded in either order. -/
theorem record_comm (l : Latency) (m n : Nat) :
    (l.record m).record n = (l.record n).record m := by
  simp only [record, mk.injEq]
  rcases Nat.lt_trichotomy (LatencyBin.ofNanos m).first (LatencyBin.ofNanos n).first with
    h_lt | h_eq | h_gt
  · exact (bump_comm_of_lt h_lt l.bins).symm
  · rw [LatencyBin.ofNanos_eq_of_first_eq h_eq]
  · exact bump_comm_of_lt h_gt l.bins

/-- How many durations of a collection are in a bin. -/
def countIn (l : Latency) (b : LatencyBin) : Nat :=
  ((l.bins.filter (·.1 = b)).map Prod.snd).sum

/-- A collection whose bins are bins of durations. -/
def Regular (l : Latency) : Prop :=
  ∀ bin ∈ l.bins, ∃ n, bin.1 = .ofNanos n

theorem regular_empty : Regular {} := by simp [Regular]

theorem mem_bump {b : LatencyBin} {bins : List (LatencyBin × Nat)} {bin : LatencyBin × Nat}
    (h : bin ∈ bump b bins) : bin.1 = b ∨ ∃ old ∈ bins, bin.1 = old.1 := by
  induction bins with
  | nil => grind [bump]
  | cons first rest ih => grind [bump]

theorem Regular.record {l : Latency} (h : l.Regular) (n : Nat) : (l.record n).Regular := by
  intro bin h_bin
  rcases mem_bump h_bin with h_new | ⟨old, h_old, h_same⟩
  · exact ⟨n, h_new⟩
  · obtain ⟨m, h_m⟩ := h old h_old
    exact ⟨m, h_same.trans h_m⟩

/-- A duration counts in its own bin. -/
theorem Regular.countIn_record {l : Latency} (h : l.Regular) (n : Nat) (b : LatencyBin) :
    (l.record n).countIn b = l.countIn b + if .ofNanos n = b then 1 else 0 := by
  obtain ⟨bins⟩ := l
  simp only [Latency.record, countIn]
  induction bins with
  | nil => grind [bump]
  | cons bin rest ih =>
    obtain ⟨c, count⟩ := bin
    have h_rest : Regular ⟨rest⟩ := fun bin h_bin => h bin (List.mem_cons_of_mem _ h_bin)
    have h_same : (LatencyBin.ofNanos n).first = c.first → LatencyBin.ofNanos n = c := by
      obtain ⟨m, h_m⟩ := h (c, count) (List.mem_cons_self ..)
      intro h_first
      subst h_m
      exact LatencyBin.ofNanos_eq_of_first_eq h_first
    specialize ih h_rest
    grind [bump]

end Latency

/-! ## Updates -/

/-- A step of a measurement that no other thread can divide: a counter advances, or a duration is
recorded. -/
inductive Update where
  | advance (c : Counter)
  | buildTime (nanos : Nat)
  | waitTime (nanos : Nat)
  deriving DecidableEq

/-- The steps of a measurement, in the order in which a thread takes them. -/
def Measurement.updates : Measurement → List Update
  | .flush => [.advance .flushes]
  | .compilation elapsed ok =>
    .advance .compilations :: (if ok then [] else [.advance .buildFailures]) ++ [.buildTime elapsed]
  | .dispatch waited ok =>
    [.advance (if ok then .recordsRun else .recordFailures), .waitTime waited]
  | .reuse => [.advance .reuses]
  | .share => [.advance .shares]
  | .collision => [.advance .collisions]
  | .panic => [.advance .panics]

/-- The duration that a measurement records as that of a compilation. -/
def Measurement.buildTime? : Measurement → Option Nat
  | .compilation elapsed _ => some elapsed
  | _ => none

/-- The duration that a measurement records as that of a record. -/
def Measurement.waitTime? : Measurement → Option Nat
  | .dispatch waited _ => some waited
  | _ => none

namespace Tallies

/-- The tallies with a counter advanced by one. -/
def advance (t : Tallies) : Counter → Tallies
  | .flushes => { t with flushes := t.flushes + 1 }
  | .recordsRun => { t with recordsRun := t.recordsRun + 1 }
  | .recordFailures => { t with recordFailures := t.recordFailures + 1 }
  | .compilations => { t with compilations := t.compilations + 1 }
  | .buildFailures => { t with buildFailures := t.buildFailures + 1 }
  | .reuses => { t with reuses := t.reuses + 1 }
  | .shares => { t with shares := t.shares + 1 }
  | .collisions => { t with collisions := t.collisions + 1 }
  | .panics => { t with panics := t.panics + 1 }

/-- The tallies after an update. -/
def update (t : Tallies) : Update → Tallies
  | .advance c => t.advance c
  | .buildTime nanos => { t with buildTimes := t.buildTimes.record nanos }
  | .waitTime nanos => { t with waitTimes := t.waitTimes.record nanos }

theorem note_eq_updates (t : Tallies) (m : Measurement) : t.note m = m.updates.foldl update t := by
  cases m with
  | compilation _ ok | dispatch _ ok => cases ok <;> rfl
  | _ => rfl

theorem noteAll_eq_updates (t : Tallies) (ms : List Measurement) :
    t.noteAll ms = (ms.flatMap Measurement.updates).foldl update t := by
  induction ms generalizing t with
  | nil => rfl
  | cons m ms ih =>
    rw [noteAll, List.foldl_cons, ← noteAll, ih, note_eq_updates, List.flatMap_cons,
      List.foldl_append]

theorem advance_comm (t : Tallies) (c c' : Counter) :
    (t.advance c).advance c' = (t.advance c').advance c := by
  cases c <;> cases c' <;> rfl

/-- Two updates have the same effect in either order. -/
theorem update_comm (t : Tallies) (u u' : Update) :
    (t.update u).update u' = (t.update u').update u := by
  cases u with
  | advance c =>
    cases u' with
    | advance c' => exact t.advance_comm c c'
    | buildTime | waitTime => cases c <;> rfl
  | buildTime m =>
    cases u' with
    | advance c' => cases c' <;> rfl
    | buildTime n => simp only [update, t.buildTimes.record_comm m n]
    | waitTime => rfl
  | waitTime m =>
    cases u' with
    | advance c' => cases c' <;> rfl
    | buildTime => rfl
    | waitTime n => simp only [update, t.waitTimes.record_comm m n]

/-- Updates have the same effect in every order. -/
theorem updates_perm (t : Tallies) {us us' : List Update} (h : us.Perm us') :
    us.foldl update t = us'.foldl update t :=
  h.foldl_eq' (fun u _ u' _ t => t.update_comm u u') t

theorem noteAll_perm (t : Tallies) {ms ms' : List Measurement} (h : ms.Perm ms') :
    t.noteAll ms = t.noteAll ms' := by
  rw [noteAll_eq_updates, noteAll_eq_updates]
  exact t.updates_perm (h.flatMap_right Measurement.updates)

/-! ## What is recorded -/

theorem buildTimes_note (t : Tallies) (m : Measurement) :
    (t.note m).buildTimes = m.buildTime?.toList.foldl Latency.record t.buildTimes := by
  cases m <;> rfl

theorem waitTimes_note (t : Tallies) (m : Measurement) :
    (t.note m).waitTimes = m.waitTime?.toList.foldl Latency.record t.waitTimes := by
  cases m <;> rfl

/-- A collection of the tallies that records the durations of some measurements records them one
after the other. -/
theorem times_noteAll {times : Tallies → Latency} {duration? : Measurement → Option Nat}
    (h_note : ∀ t m, times (t.note m) = (duration? m).toList.foldl Latency.record (times t))
    (t : Tallies) (ms : List Measurement) :
    times (t.noteAll ms) = (ms.filterMap duration?).foldl Latency.record (times t) := by
  induction ms generalizing t with
  | nil => rfl
  | cons m ms ih =>
    rw [noteAll, List.foldl_cons, ← noteAll, ih, h_note, List.filterMap_cons]
    cases duration? m <;> rfl

end Tallies

theorem Latency.countIn_records {l : Latency} (h : l.Regular) (ns : List Nat) (b : LatencyBin) :
    (ns.foldl Latency.record l).countIn b = l.countIn b + ns.countP (.ofNanos · = b) := by
  induction ns generalizing l with
  | nil => rfl
  | cons n ns ih =>
    rw [List.foldl_cons, ih (h.record n), h.countIn_record, List.countP_cons, Nat.add_assoc]
    simp only [decide_eq_true_eq, Nat.add_comm]

/-- A reset forgets every counter and every duration. -/
theorem Tallies.reset_eq (t : Tallies) : t.reset = {} := rfl

/-- Neither the order of measurements nor the way in which threads interleave within them has an
effect on the figures, from whatever tallies on and for whatever durations, and after a reset they
are those of tallies that have measured nothing before. They are figures of what has been measured:
each counter counts its measurements, and each bin the durations that are in it. -/
theorem figures_ignore_interleaving :
    (∀ (t : Tallies) (ms ms' : List Measurement), ms.Perm ms' →
      (t.noteAll ms).figures = (t.noteAll ms').figures) ∧
    (∀ (t : Tallies) (ms : List Measurement) (us : List Update),
      us.Perm (ms.flatMap Measurement.updates) →
        (us.foldl Tallies.update t).figures = (t.noteAll ms).figures) ∧
    (∀ (t : Tallies) (ms ms' : List Measurement), ms.Perm ms' →
      (t.reset.noteAll ms).figures = (Tallies.noteAll {} ms').figures) ∧
    ∀ ms : List Measurement,
      (∀ c : Counter, c.reading (Tallies.noteAll {} ms) = ms.countP c.counts) ∧
      ∀ b : LatencyBin,
        (Tallies.noteAll {} ms).buildTimes.countIn b =
          (ms.filterMap Measurement.buildTime?).countP (.ofNanos · = b) ∧
        (Tallies.noteAll {} ms).waitTimes.countIn b =
          (ms.filterMap Measurement.waitTime?).countP (.ofNanos · = b) := by
  refine ⟨fun t ms ms' h_perm => ?_, fun t ms us h_perm => ?_, fun t ms ms' h_perm => ?_,
    fun ms => ⟨fun c => ?_, fun b => ⟨?_, ?_⟩⟩⟩
  · rw [t.noteAll_perm h_perm]
  · rw [t.updates_perm h_perm, ← t.noteAll_eq_updates]
  · rw [t.reset.noteAll_perm h_perm, t.reset_eq]
  · have h_start : c.reading {} = 0 := by cases c <;> rfl
    rw [c.reading_noteAll, h_start, Nat.zero_add]
  · rw [Tallies.times_noteAll Tallies.buildTimes_note,
      Latency.countIn_records Latency.regular_empty]
    exact Nat.zero_add _
  · rw [Tallies.times_noteAll Tallies.waitTimes_note,
      Latency.countIn_records Latency.regular_empty]
    exact Nat.zero_add _

/-- Measurements of two threads: one compiles and fails, the other compiles and runs a record. Two
of the durations are beyond all bins, and one of these is more than 64 bits of nanoseconds. -/
def twoThreads : List Measurement :=
  [.flush, .compilation 30 false, .panic, .compilation (2 ^ 43) true, .share,
    .dispatch (2 ^ 70) true]

theorem two_threads_interleave :
    twoThreads.reverse.Perm twoThreads ∧
      (Tallies.noteAll {} twoThreads.reverse).figures = (Tallies.noteAll {} twoThreads).figures ∧
      (([.advance .compilations, .advance .flushes, .advance .compilations, .buildTime (2 ^ 43),
          .advance .buildFailures, .advance .recordsRun, .advance .panics, .buildTime 30,
          .waitTime (2 ^ 70), .advance .shares] : List Update).foldl Tallies.update {}).figures =
        (Tallies.noteAll {} twoThreads).figures ∧
      (((Tallies.noteAll {} twoThreads).reset).noteAll twoThreads.reverse).figures =
        (Tallies.noteAll {} twoThreads).figures ∧
      (Tallies.noteAll {} twoThreads).waitTimes.countIn (.ofNanos LatencyBin.hour) = 1 := by
  obtain ⟨h_order, h_threads, h_reset, h_counts⟩ := figures_ignore_interleaving
  have h_perm : twoThreads.reverse.Perm twoThreads := List.reverse_perm _
  have h_bins := (h_counts twoThreads).2 (.ofNanos LatencyBin.hour)
  refine ⟨h_perm, h_order _ _ _ h_perm, h_threads _ _ _ (by decide), h_reset _ _ _ h_perm, ?_⟩
  rw [h_bins.2]
  decide

end KernelDispatch
