/-
  KernelDispatch.Proofs.Tallies.Measures

  Tallies are counts.

  Each counter counts the measurements of one kind, so after a run it is the number
  of those that the events of the run have brought (`tally_counter`). What has been
  measured adds up along a history (`measured_append`), and a counter is about some
  events only (`measured_eq_zero`), so a statement about a counter is one about these
  events in each move.
-/
import KernelDispatch.Proofs.Flush.History

namespace KernelDispatch

variable {C : Type}

/-- The counters of the tallies. -/
inductive Counter where
  | flushes
  | recordsRun
  | recordFailures
  | compilations
  | buildFailures
  | reuses
  | shares
  | collisions
  | panics
  deriving DecidableEq

namespace Counter

/-- Where some tallies stand with a counter. -/
def reading : Counter → Tallies → Nat
  | flushes, t => t.flushes
  | recordsRun, t => t.recordsRun
  | recordFailures, t => t.recordFailures
  | compilations, t => t.compilations
  | buildFailures, t => t.buildFailures
  | reuses, t => t.reuses
  | shares, t => t.shares
  | collisions, t => t.collisions
  | panics, t => t.panics

/-- Whether a measurement advances a counter. -/
def counts : Counter → Measurement → Bool
  | flushes, .flush => true
  | recordsRun, .dispatch _ ok => ok
  | recordFailures, .dispatch _ ok => !ok
  | compilations, .compilation .. => true
  | buildFailures, .compilation _ ok => !ok
  | reuses, .reuse => true
  | shares, .share => true
  | collisions, .collision => true
  | panics, .panic => true
  | _, _ => false

/-- A measurement advances the counters that count it, by one each. -/
theorem reading_note (c : Counter) (t : Tallies) (m : Measurement) :
    c.reading (t.note m) = c.reading t + if c.counts m then 1 else 0 := by
  cases m with
  | compilation _ ok | dispatch _ ok => cases ok <;> cases c <;> rfl
  | _ => cases c <;> rfl

theorem reading_noteAll (c : Counter) (t : Tallies) (ms : List Measurement) :
    c.reading (t.noteAll ms) = c.reading t + ms.countP c.counts := by
  induction ms generalizing t with
  | nil => rfl
  | cons m ms ih =>
    rw [Tallies.noteAll, List.foldl_cons, ← Tallies.noteAll, ih, reading_note, List.countP_cons]
    omega

end Counter

/-- By how much some events advance a counter. -/
def measured (c : Counter) (es : List (Event C)) : Nat :=
  (es.flatMap Event.measurements).countP c.counts

@[simp] theorem measured_nil (c : Counter) : measured c ([] : List (Event C)) = 0 := rfl

@[simp] theorem measured_append (c : Counter) (es fs : List (Event C)) :
    measured c (es ++ fs) = measured c es + measured c fs := by
  rw [measured, List.flatMap_append, List.countP_append, measured, measured]

/-- Whether an event can advance a counter. -/
def Counter.heeds : Counter → Event C → Bool
  | flushes, .began .. => true
  | recordsRun, .recordEnded .. => true
  | recordFailures, .recordEnded .. => true
  | compilations, .codegenEnded .. => true
  | buildFailures, .codegenEnded .. => true
  | reuses, .reused .. => true
  | shares, .shared .. => true
  | collisions, .collided .. => true
  | panics, .codegenEnded .. => true
  | panics, .ran .. => true
  | _, _ => false

theorem Counter.heeds_of_counts {c : Counter} {e : Event C} {m : Measurement}
    (h_m : m ∈ e.measurements) (h_counts : c.counts m = true) : c.heeds e = true := by
  cases e with
  | codegenEnded _ _ elapsed ok panic =>
    have h_kinds : m = .panic ∨ m = .compilation elapsed ok := by
      cases panic with
      | none => exact .inr (List.mem_singleton.1 h_m)
      | some => simpa [Event.measurements] using h_m
    rcases h_kinds with rfl | rfl <;> cases c <;> first | rfl | cases h_counts
  | ran _ _ _ _ result =>
    have h_kind : m = .panic := by
      cases result with
      | completed => cases h_m
      | panicked | lost => exact List.mem_singleton.1 h_m
    subst h_kind
    cases c <;> first | rfl | cases h_counts
  | began | collided | shared | reused | recordEnded =>
    obtain rfl := List.mem_singleton.1 h_m
    cases c <;> first | rfl | cases h_counts
  | _ => cases h_m

/-- Events do not advance a counter if it is about none of them. -/
theorem measured_eq_zero {c : Counter} {es : List (Event C)}
    (h : ∀ e ∈ es, c.heeds e = false) : measured c es = 0 := by
  refine List.countP_eq_zero.2 fun m h_m h_counts => ?_
  obtain ⟨e, h_e, h_mem⟩ := List.mem_flatMap.1 h_m
  have h_heeds := Counter.heeds_of_counts h_mem h_counts
  simp [h e h_e] at h_heeds

/-- The tallies after some events. -/
theorem tally_counter (c : Counter) (es : List (Stamped C)) :
    c.reading (Event.tally {} es) = measured c (history es) := by
  have h_fold (t : Tallies) :
      c.reading (Event.tally t es) = c.reading t + measured c (history es) := by
    induction es generalizing t with
    | nil => rfl
    | cons e es ih =>
      have h_history : history (e :: es) = [e.2] ++ history es := rfl
      rw [Event.tally, List.foldl_cons, ← Event.tally, ih, c.reading_noteAll, h_history,
        measured_append, Nat.add_assoc]
      simp [measured]
  have h_start : c.reading {} = 0 := by cases c <;> rfl
  rw [h_fold, h_start, Nat.zero_add]

end KernelDispatch
