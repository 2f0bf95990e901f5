/-
  KernelDispatch.Proofs.Flush.Run

  Runs of a dispatcher, move by move.

  A run that is extended at its end takes one more transition (`run_concat`), and
  what every transition keeps holds after every run (`run_induction`). Between two
  moments of a run the clock only goes forward (`now_le_of_run`).
-/
import Mathlib.Data.List.Induction
import KernelDispatch.Proofs.Flush.Inversion

namespace KernelDispatch.State

variable {C : Type} {cfg : Settings} {env : Environment C} {s t u : State C} {m : Move C}
  {ms ms' : List (Move C)} {es fs : List (Stamped C)}

/-! ## One step -/

/-- Some events with the moment at which they happen. -/
def stamp (now : Moment) (es : List (Event C)) : List (Stamped C) :=
  es.map fun e => (now, e)

/-- A step is a transition of a process that has not ended, and it stamps the events. -/
theorem step_eq_some_iff :
    step cfg env s m = some (t, fs) ↔
      s.aborted = false ∧ ∃ es, Transition cfg env s m t es ∧ fs = stamp s.now es := by
  unfold step
  cases h_aborted : s.aborted with
  | true => simp
  | false =>
    simp only [Bool.false_eq_true, if_false, Option.map_eq_some_iff, Prod.mk.injEq, true_and]
    constructor
    · rintro ⟨⟨t', es⟩, h_move, rfl, rfl⟩
      exact ⟨es, move_transition h_move, rfl⟩
    · rintro ⟨es, h_step, rfl⟩
      exact ⟨(t, es), move_of_transition h_step, rfl, rfl⟩

/-! ## Runs -/

@[simp] theorem run_nil : run cfg env s [] = some (s, []) := rfl

theorem run_cons :
    run cfg env s (m :: ms) = some (u, es) ↔
      ∃ t es₁ es₂, step cfg env s m = some (t, es₁) ∧ run cfg env t ms = some (u, es₂) ∧
        es = es₁ ++ es₂ := by
  simp only [run, Option.bind_eq_bind, Option.bind_eq_some_iff, Option.some.injEq, Prod.mk.injEq,
    Prod.exists]
  constructor
  · rintro ⟨t, es₁, h_step, _, es₂, h_run, rfl, rfl⟩
    exact ⟨t, es₁, es₂, h_step, h_run, rfl⟩
  · rintro ⟨t, es₁, es₂, h_step, h_run, rfl⟩
    exact ⟨t, es₁, h_step, u, es₂, h_run, rfl, rfl⟩

/-- A run of two sequences of moves is a run of the first and then one of the second. -/
theorem run_append :
    run cfg env s (ms ++ ms') = some (u, es) ↔
      ∃ t es₁ es₂, run cfg env s ms = some (t, es₁) ∧ run cfg env t ms' = some (u, es₂) ∧
        es = es₁ ++ es₂ := by
  induction ms generalizing s es with
  | nil =>
    constructor
    · intro h_run
      exact ⟨s, [], es, rfl, h_run, rfl⟩
    · rintro ⟨_, _, es₂, ⟨rfl, rfl⟩, h_run, rfl⟩
      exact h_run
  | cons m ms ih =>
    simp only [List.cons_append, run_cons, ih]
    constructor
    · rintro ⟨t, es₁, _, h_step, ⟨t', es₂, es₃, h_run, h_run', rfl⟩, rfl⟩
      exact ⟨t', es₁ ++ es₂, es₃, ⟨t, es₁, es₂, h_step, h_run, rfl⟩, h_run', by simp⟩
    · rintro ⟨t', _, es₃, ⟨t, es₁, es₂, h_step, h_run, rfl⟩, h_run', rfl⟩
      exact ⟨t, es₁, es₂ ++ es₃, h_step, ⟨t', es₂, es₃, h_run, h_run', rfl⟩, by simp⟩

/-- The last move of a run. -/
theorem run_concat :
    run cfg env s (ms ++ [m]) = some (u, es) ↔
      ∃ t es₁ es₂, run cfg env s ms = some (t, es₁) ∧ t.aborted = false ∧
        Transition cfg env t m u es₂ ∧ es = es₁ ++ stamp t.now es₂ := by
  simp only [run_append, run_cons, run_nil, step_eq_some_iff, Option.some.injEq, Prod.mk.injEq]
  constructor
  · rintro ⟨t, es₁, _, h_run, ⟨_, _, _, ⟨h_aborted, es₂, h_step, rfl⟩, ⟨rfl, rfl⟩, rfl⟩, rfl⟩
    exact ⟨t, es₁, es₂, h_run, h_aborted, h_step, by simp⟩
  · rintro ⟨t, es₁, es₂, h_run, h_aborted, h_step, rfl⟩
    exact ⟨t, es₁, _, h_run, ⟨u, _, [], ⟨h_aborted, es₂, h_step, rfl⟩, ⟨rfl, rfl⟩, rfl⟩, by simp⟩

/-- What holds at the start and is kept by every transition holds after every run. It may speak
about the moves made and the events so far. -/
theorem run_induction {P : List (Move C) → State C → List (Stamped C) → Prop}
    (h_nil : P [] s [])
    (h_concat : ∀ ms m t es u fs, run cfg env s ms = some (t, es) → t.aborted = false →
      P ms t es → Transition cfg env t m u fs → P (ms ++ [m]) u (es ++ stamp t.now fs))
    (h_run : run cfg env s ms = some (t, es)) : P ms t es := by
  -- From the end: the last move starts in a state to which the rest of the run leads.
  induction ms using List.reverseRecOn generalizing t es with
  | nil =>
    cases h_run
    exact h_nil
  | append_singleton ms m ih =>
    obtain ⟨t', es₁, es₂, h_prefix, h_aborted, h_step, rfl⟩ := run_concat.1 h_run
    exact h_concat ms m t' es₁ t es₂ h_prefix h_aborted (ih h_prefix) h_step

/-- Every event of a run is emitted by a move of it: the run leads up to that move and goes on from
there. -/
theorem split_of_run {before after : List (Stamped C)} {now : Moment} {e : Event C}
    (h_run : run cfg env s ms = some (t, before ++ (now, e) :: after)) :
    ∃ ms₁ s₁ es₁ m s₂ past later ms₂ es₂, run cfg env s ms₁ = some (s₁, es₁) ∧
      s₁.aborted = false ∧ Transition cfg env s₁ m s₂ (past ++ e :: later) ∧
      run cfg env s₂ ms₂ = some (t, es₂) ∧ now = s₁.now ∧ before = es₁ ++ stamp s₁.now past ∧
      after = stamp s₁.now later ++ es₂ := by
  generalize h_es : before ++ (now, e) :: after = es at h_run
  induction ms generalizing s before es with
  | nil =>
    cases h_run
    simp at h_es
  | cons m ms ih =>
    obtain ⟨s₁, fs₁, fs₂, h_step, h_rest, rfl⟩ := run_cons.1 h_run
    -- The event comes from the first move or from a later one.
    have h_where : (∃ before', before = fs₁ ++ before' ∧ before' ++ (now, e) :: after = fs₂) ∨
        ∃ later, fs₁ = before ++ (now, e) :: later ∧ after = later ++ fs₂ := by
      rcases List.append_eq_append_iff.1 h_es with ⟨cut, h_fs₁, h_cut⟩ | ⟨before', h_before, h_fs₂⟩
      · cases cut with
        | nil => exact .inl ⟨[], by simpa using h_fs₁.symm, h_cut⟩
        | cons x cut =>
          obtain ⟨rfl, rfl⟩ := List.cons.inj h_cut
          exact .inr ⟨cut, h_fs₁, rfl⟩
      · exact .inl ⟨before', h_before, h_fs₂.symm⟩
    rcases h_where with ⟨before', rfl, h_fs₂⟩ | ⟨later, rfl, rfl⟩
    · obtain ⟨ms₁, s', es₁, m', s₂, past, later, ms₂, es₂, h_prefix, h_alive, h_e, h_suffix,
        h_now, rfl, h_after⟩ := ih _ h_fs₂ h_rest
      exact ⟨m :: ms₁, s', fs₁ ++ es₁, m', s₂, past, later, ms₂, es₂,
        run_cons.2 ⟨s₁, fs₁, es₁, h_step, h_prefix, rfl⟩, h_alive, h_e, h_suffix, h_now,
        (List.append_assoc ..).symm, h_after⟩
    · obtain ⟨h_alive, es, h_move, h_stamp⟩ := step_eq_some_iff.1 h_step
      obtain ⟨past, es', rfl, rfl, h_es'⟩ := List.map_eq_append_iff.1 h_stamp.symm
      obtain ⟨e', later, rfl, h_e', rfl⟩ := List.map_eq_cons_iff.1 h_es'
      obtain ⟨rfl, rfl⟩ := Prod.mk.inj h_e'
      exact ⟨[], s, [], m, s₁, past, later, ms, fs₂, rfl, h_alive, h_move, h_rest, rfl, rfl, rfl⟩

/-! ## The clock -/

theorem Transition.now_le {es : List (Event C)} (h : Transition cfg env s m t es) :
    s.now ≤ t.now := by
  cases h with
  | caller h_current h_step => cases h_step <;> exact Nat.le_refl _
  | worker h_running h_job h_step => cases h_step <;> exact Nat.le_refl _
  | launcher h_lane h_step => cases h_step <;> exact Nat.le_refl _
  | tick => exact Nat.le_add_right _ _
  | _ => exact Nat.le_refl _

/-- No event of a run comes after its end. -/
theorem moment_le_of_run (h_run : run cfg env s ms = some (t, es)) :
    ∀ e ∈ es, e.1 ≤ t.now := by
  refine run_induction (P := fun _ t es => ∀ e ∈ es, e.1 ≤ t.now) (by simp) ?_ h_run
  intro ms m t es u fs _ _ h_before h_step e h_e
  rcases List.mem_append.1 h_e with h_e | h_e
  · exact Nat.le_trans (h_before e h_e) h_step.now_le
  · obtain ⟨x, -, rfl⟩ := List.mem_map.1 h_e
    exact h_step.now_le

/-- No event of a run has a moment after that of a later one. -/
theorem moment_le_of_split {past later : List (Stamped C)} {moment : Moment} {e : Event C}
    (h_run : run cfg env s ms = some (t, past ++ (moment, e) :: later)) :
    ∀ x ∈ past, x.1 ≤ moment := by
  obtain ⟨_, s', es₁, _, _, fs, _, _, _, h_prefix, -, -, -, rfl, rfl, -⟩ := split_of_run h_run
  intro x h_x
  rcases List.mem_append.1 h_x with h_old | h_new
  · exact moment_le_of_run h_prefix x h_old
  · obtain ⟨_, -, rfl⟩ := List.mem_map.1 h_new
    exact Nat.le_refl _

/-- A deadline that the clock cannot represent stays out of reach. -/
theorem deadline?_eq_none_of_le {span : Span} {now later : Moment}
    (h : span.deadline? now = none) (h_le : now ≤ later) : span.deadline? later = none := by
  simp only [Span.deadline?, ite_eq_right_iff, reduceCtorEq, imp_false, Nat.not_lt] at h ⊢
  exact Nat.le_trans h (Nat.div_le_div_right (Nat.add_le_add_right h_le _))

end KernelDispatch.State
