/-
  KernelDispatch.Proofs.ArtifactStore.Waiters

  Threads that wait for artifacts, in any number and in any order of moves.

  A waiter answers with what its slot holds at the moment at which it answers, and it
  gives up only on a pending slot after its deadline. An operation that settles a slot
  owes a notification, and nothing else makes a slot settled (`StoreOp.settled_before`);
  so a waiter that sleeps although its slot has settled is still to be notified
  (`Vigilant`, `vigilant_of_run`). Entries that leave the store, and entries that come
  back for the same task, wake nobody and need not.
-/
import Mathlib.Data.List.Induction
import KernelDispatch.ArtifactStore.Lemmas
import KernelDispatch.ArtifactStore.Waiting

namespace KernelDispatch

variable {A : Type}

/-! ## Operations that notify -/

/-- An operation that notifies nobody has settled nothing. -/
theorem StoreOp.settled_before {s : ArtifactStore A} {op : StoreOp A}
    (h_quiet : op.notifies (op.apply s).1 = false) {k : TaskId} {slot : Slot A}
    (h_slot : (op.apply s).2.slot? k = some slot) (h_settled : slot.isPending = false) :
    s.slot? k = some slot := by
  have h_settle (key : TaskId) (content : Slot A) (h_not : (s.settle key content).1 = false)
      (h_after : (s.settle key content).2.slot? k = some slot) : s.slot? k = some slot := by
    rw [ArtifactStore.settle_changed] at h_not
    simpa [ArtifactStore.slot?_settle, h_not] using h_after
  cases op with
  | request key flush =>
    rw [apply, ArtifactStore.slot?_request] at h_slot
    split at h_slot
    · cases h_slot
      cases h_settled
    · exact h_slot
  | publish key artifact => exact h_settle key _ h_quiet h_slot
  | fail key message => exact h_settle key _ h_quiet h_slot
  | rejectPending message =>
    rw [apply, ArtifactStore.slot?_rejectPending] at h_slot
    obtain ⟨old, h_old, h_eq⟩ := Option.map_eq_some_iff.1 h_slot
    have h_none : s.entries.countP (·.slot.isPending) = 0 := by
      simpa [notifies, apply, ArtifactStore.rejectPending] using h_quiet
    obtain ⟨e, h_find, rfl⟩ := Option.map_eq_some_iff.1 h_old
    have h_not := List.countP_eq_zero.1 h_none e (ArtifactStore.find?_eq_some_iff.1 h_find).1
    rw [if_neg h_not] at h_eq
    rw [h_old, h_eq]
  | retain retention rank => exact (ArtifactStore.slot?_of_retain h_slot).2
  | clear => cases h_slot

/-! ## What waiters find -/

/-- What an answer says about the slot of its waiter is so. -/
def Finding.Holds (r : WaitRoom A) (w : Waiter A) : Finding A → Prop
  | ready artifact => r.store.slot? w.key = some (.ready artifact)
  | failed message => r.store.slot? w.key = some (.failed message)
  | tooLate => w.deadline ≤ r.now ∧ r.store.slot? w.key = some .pending
  | missing => r.store.slot? w.key = none

/-- What a waiter finds in a slot that has settled. -/
def Slot.finding? : Slot A → Option (Finding A)
  | pending => none
  | ready artifact => some (.ready artifact)
  | failed message => some (.failed message)

theorem ArtifactStore.examine_of_settled {s : ArtifactStore A} {k : TaskId} {slot : Slot A}
    {answer : Finding A} (h_slot : s.slot? k = some slot) (h_finding : slot.finding? = some answer)
    (expired : Bool) : s.examine k expired = some answer := by
  cases slot with
  | pending => cases h_finding
  | ready | failed => simpa [examine, h_slot, Slot.finding?] using h_finding

theorem ArtifactStore.pending_of_examine {s : ArtifactStore A} {k : TaskId} {expired : Bool}
    (h : s.examine k expired = none) : s.slot? k = some .pending := by
  unfold examine at h
  split at h
  · contradiction
  · contradiction
  · contradiction
  · next h_slot => exact h_slot

/-- A notification wakes a sleeper and nobody else. -/
theorem Waiter.notified_cases (w : Waiter A) :
    w.phase = .asleep ∧ w.notified = { w with phase := .awake false } ∨
      w.phase ≠ .asleep ∧ w.notified = w := by
  unfold notified
  split
  · next h_asleep => exact .inl ⟨h_asleep, rfl⟩
  · next h_awake => exact .inr ⟨h_awake, rfl⟩

namespace WaitRoom

variable {r r' r'' : WaitRoom A} {m : WaitMove A} {ms : List (WaitMove A)}

/-! ## Moves -/

/-- Everything a move can do. -/
inductive Transition (r : WaitRoom A) : WaitMove A → WaitRoom A → Prop where
  | arrives {key : TaskId} {deadline : Moment} :
      Transition r (.arrive key deadline)
        { r with waiters := r.waiters ++ [⟨key, deadline, .awake false⟩] }
  | operates {op : StoreOp A} :
      Transition r (.operate op)
        { r with
          store := (op.apply r.store).2
          owed := r.owed + (op.notifies (op.apply r.store).1).toNat }
  | notifies {n : Nat} (h_owed : r.owed = n + 1) :
      Transition r .notify { r with owed := n, waiters := r.waiters.map Waiter.notified }
  | expires {i : Nat} {key : TaskId} {deadline : Moment}
      (h_waiter : r.waiters[i]? = some ⟨key, deadline, .asleep⟩) (h_due : deadline ≤ r.now) :
      Transition r (.expire i) { r with waiters := r.waiters.set i ⟨key, deadline, .awake true⟩ }
  | stirs {i : Nat} {key : TaskId} {deadline : Moment}
      (h_waiter : r.waiters[i]? = some ⟨key, deadline, .asleep⟩) :
      Transition r (.stir i) { r with waiters := r.waiters.set i ⟨key, deadline, .awake false⟩ }
  | answers {i : Nat} {key : TaskId} {deadline : Moment} {expired : Bool} {answer : Finding A}
      (h_waiter : r.waiters[i]? = some ⟨key, deadline, .awake expired⟩)
      (h_found : r.store.examine key expired = some answer) :
      Transition r (.examine i)
        { r with waiters := r.waiters.set i ⟨key, deadline, .answered answer⟩ }
  | sleeps {i : Nat} {key : TaskId} {deadline : Moment} {expired : Bool}
      (h_waiter : r.waiters[i]? = some ⟨key, deadline, .awake expired⟩)
      (h_found : r.store.examine key expired = none) :
      Transition r (.examine i) { r with waiters := r.waiters.set i ⟨key, deadline, .asleep⟩ }
  | ticks {nanos : Nat} : Transition r (.tick nanos) { r with now := r.now + nanos }

theorem transition_of_step (h : step r m = some r') : Transition r m r' := by
  unfold step at h
  cases m with
  | arrive key deadline =>
    cases h
    exact .arrives
  | operate op =>
    cases h
    exact .operates
  | notify =>
    cases h_owed : r.owed with
    | zero => simp [h_owed] at h
    | succ n =>
      simp only [h_owed, Option.some.injEq] at h
      exact h ▸ .notifies h_owed
  | expire i =>
    simp only at h
    split at h
    · next key deadline h_waiter =>
      split at h
      · next h_due =>
        cases h
        exact .expires h_waiter h_due
      · contradiction
    · contradiction
  | stir i =>
    simp only at h
    split at h
    · next key deadline h_waiter =>
      cases h
      exact .stirs h_waiter
    · contradiction
  | examine i =>
    simp only at h
    split at h
    · next key deadline expired h_waiter =>
      cases h_found : r.store.examine key expired with
      | none =>
        simp only [examined, h_found, Option.some.injEq] at h
        exact h ▸ .sleeps h_waiter h_found
      | some answer =>
        simp only [examined, h_found, Option.some.injEq] at h
        exact h ▸ .answers h_waiter h_found
    · contradiction
  | tick nanos =>
    cases h
    exact .ticks

/-- A waiter that is awake returns with the answer that it finds. -/
theorem exists_step_of_found {i : Nat} {w : Waiter A} {expired : Bool} {answer : Finding A}
    (h_waiter : r.waiters[i]? = some w) (h_phase : w.phase = .awake expired)
    (h_found : r.store.examine w.key expired = some answer) :
    ∃ r', step r (.examine i) = some r' ∧
      r'.waiters[i]? = some { w with phase := .answered answer } := by
  obtain ⟨key, deadline, phase⟩ := w
  subst h_phase
  refine ⟨{ r with waiters := r.waiters.set i ⟨key, deadline, .answered answer⟩ }, ?_, ?_⟩
  · simp only [step, h_waiter, examined, h_found]
  · exact List.getElem?_set_self (List.getElem?_eq_some_iff.1 h_waiter).1

/-- The last move of a run. -/
theorem run_concat : run r (ms ++ [m]) = some r'' ↔
    ∃ r', run r ms = some r' ∧ step r' m = some r'' := by
  simp [run, List.foldlM_append, Option.bind_eq_some_iff]

/-! ## Answers -/

/-- A waiter that has returned after a move had returned before it, or it was awake and has found
its answer. -/
theorem Transition.answered_origin (h : Transition r m r') {i : Nat} {w : Waiter A}
    {answer : Finding A} (h_waiter : r'.waiters[i]? = some w)
    (h_phase : w.phase = .answered answer) :
    r.waiters[i]? = some w ∨
      m = .examine i ∧ ∃ expired, r.waiters[i]? = some { w with phase := .awake expired } ∧
        r.store.examine w.key expired = some answer := by
  -- A move that changes another waiter leaves this one alone, and no other move makes one return.
  have h_set {j : Nat} {w' : Waiter A} (h_not : ∀ answer, w'.phase ≠ .answered answer)
      (h_after : (r.waiters.set j w')[i]? = some w) : r.waiters[i]? = some w := by
    rw [List.getElem?_set] at h_after
    split at h_after
    · split at h_after
      · cases h_after
        exact absurd h_phase (h_not answer)
      · contradiction
    · exact h_after
  cases h with
  | arrives =>
    rw [List.getElem?_append] at h_waiter
    split at h_waiter
    · exact .inl h_waiter
    · obtain rfl := List.mem_singleton.1 (List.mem_of_getElem? h_waiter)
      cases h_phase
  | operates | ticks => exact .inl h_waiter
  | notifies =>
    rw [List.getElem?_map] at h_waiter
    obtain ⟨old, h_old, rfl⟩ := Option.map_eq_some_iff.1 h_waiter
    rcases old.notified_cases with ⟨-, h_woken⟩ | ⟨-, h_same⟩
    · rw [h_woken] at h_phase
      cases h_phase
    · rw [h_same]
      exact .inl h_old
  | expires | stirs | sleeps => exact .inl (h_set (by simp) h_waiter)
  | @answers j key deadline expired found h_old h_found =>
    rw [List.getElem?_set] at h_waiter
    split at h_waiter
    · next h_same =>
      subst h_same
      split at h_waiter
      · cases h_waiter
        cases h_phase
        exact .inr ⟨rfl, expired, h_old, h_found⟩
      · contradiction
    · exact .inl h_waiter

/-! ## Sleepers -/

/-- No waiter gives up before its deadline, and no waiter sleeps while its slot has settled unless
it is still to be notified. -/
structure Vigilant (r : WaitRoom A) : Prop where
  expired : ∀ w ∈ r.waiters, w.phase = .awake true → w.deadline ≤ r.now
  asleep : r.owed = 0 → ∀ w ∈ r.waiters, w.phase = .asleep →
    ∀ slot, r.store.slot? w.key = some slot → slot.isPending = true

theorem vigilant_of_no_waiters (h : r.waiters = []) : Vigilant r :=
  ⟨by simp [h], by simp [h]⟩

/-- One waiter has moved: it may have woken past its deadline, or fallen asleep on a pending
slot. -/
theorem Vigilant.set (h : Vigilant r) {i : Nat} {w : Waiter A}
    (h_expired : w.phase = .awake true → w.deadline ≤ r.now)
    (h_asleep : w.phase = .asleep → r.store.slot? w.key = some .pending) :
    Vigilant { r with waiters := r.waiters.set i w } where
  expired w' h_w' h_phase := by
    rcases List.mem_or_eq_of_mem_set h_w' with h_old | rfl
    · exact h.expired w' h_old h_phase
    · exact h_expired h_phase
  asleep h_owed w' h_w' h_phase slot h_slot := by
    rcases List.mem_or_eq_of_mem_set h_w' with h_old | rfl
    · exact h.asleep h_owed w' h_old h_phase slot h_slot
    · rw [h_asleep h_phase] at h_slot
      cases h_slot
      rfl

theorem Transition.vigilant (h : Vigilant r) (h_step : Transition r m r') : Vigilant r' := by
  cases h_step with
  | arrives =>
    constructor
    · intro w h_w h_phase
      rcases List.mem_append.1 h_w with h_old | h_new
      · exact h.expired w h_old h_phase
      · obtain rfl := List.mem_singleton.1 h_new
        cases h_phase
    · intro h_owed w h_w h_phase
      rcases List.mem_append.1 h_w with h_old | h_new
      · exact h.asleep h_owed w h_old h_phase
      · obtain rfl := List.mem_singleton.1 h_new
        cases h_phase
  | @operates op =>
    refine ⟨h.expired, fun h_owed w h_w h_phase slot h_slot => ?_⟩
    -- With nothing owed after it, the operation has settled nothing.
    have h_before : r.owed = 0 := Nat.eq_zero_of_add_eq_zero_right h_owed
    have h_quiet : op.notifies (op.apply r.store).1 = false := by
      simpa using Nat.eq_zero_of_add_eq_zero_left h_owed
    cases h_settled : slot.isPending with
    | true => rfl
    | false =>
      rw [← h_settled]
      exact h.asleep h_before w h_w h_phase slot
        (StoreOp.settled_before h_quiet h_slot h_settled)
  | notifies =>
    constructor
    · intro w h_w h_phase
      obtain ⟨old, h_old, rfl⟩ := List.mem_map.1 h_w
      rcases old.notified_cases with ⟨-, h_woken⟩ | ⟨-, h_same⟩
      · rw [h_woken] at h_phase
        cases h_phase
      · rw [h_same] at h_phase ⊢
        exact h.expired old h_old h_phase
    · intro _ w h_w h_phase
      obtain ⟨old, -, rfl⟩ := List.mem_map.1 h_w
      rcases old.notified_cases with ⟨-, h_woken⟩ | ⟨h_awake, h_same⟩
      · rw [h_woken] at h_phase
        cases h_phase
      · exact absurd (h_same ▸ h_phase) h_awake
  | expires _ h_due => exact h.set (fun _ => h_due) (by simp)
  | stirs | answers => exact h.set (by simp) (by simp)
  | sleeps _ h_found =>
    exact h.set (by simp) fun _ => ArtifactStore.pending_of_examine h_found
  | ticks =>
    exact ⟨fun w h_w h_phase => Nat.le_trans (h.expired w h_w h_phase) (Nat.le_add_right _ _),
      h.asleep⟩

theorem vigilant_of_run (h : Vigilant r) (h_run : run r ms = some r') : Vigilant r' := by
  induction ms using List.reverseRecOn generalizing r' with
  | nil =>
    cases h_run
    exact h
  | append_singleton ms m ih =>
    obtain ⟨r₁, h_prefix, h_step⟩ := run_concat.1 h_run
    exact (transition_of_step h_step).vigilant (ih h_prefix)

/-- What a waiter finds holds. -/
theorem Vigilant.holds_of_examine (h : Vigilant r) {w : Waiter A} {expired : Bool}
    {answer : Finding A} (h_waiter : { w with phase := .awake expired } ∈ r.waiters)
    (h_found : r.store.examine w.key expired = some answer) : answer.Holds r w := by
  unfold ArtifactStore.examine at h_found
  split at h_found
  · next h_slot =>
    cases h_found
    exact h_slot
  · next artifact h_slot =>
    cases h_found
    exact h_slot
  · next message h_slot =>
    cases h_found
    exact h_slot
  · next h_slot =>
    split at h_found
    · next h_expired =>
      cases h_found
      subst h_expired
      have h_due := h.expired _ h_waiter rfl
      exact ⟨h_due, h_slot⟩
    · contradiction

/-! ## Runs -/

/-- A waiter that has returned has done so on a move on which it was awake, and its answer held
then. -/
theorem returned_of_run (h : Vigilant r) (h_none : r.waiters = []) (h_run : run r ms = some r')
    {i : Nat} {w : Waiter A} {answer : Finding A} (h_waiter : r'.waiters[i]? = some w)
    (h_phase : w.phase = .answered answer) :
    ∃ before after r₁ r₂ expired, ms = before ++ .examine i :: after ∧
      run r before = some r₁ ∧ step r₁ (.examine i) = some r₂ ∧
      r₁.waiters[i]? = some { w with phase := .awake expired } ∧ r₂.waiters[i]? = some w ∧
      answer.Holds r₁ w := by
  induction ms using List.reverseRecOn generalizing r' with
  | nil =>
    cases h_run
    simp [h_none] at h_waiter
  | append_singleton ms m ih =>
    obtain ⟨r₀, h_prefix, h_step⟩ := run_concat.1 h_run
    rcases (transition_of_step h_step).answered_origin h_waiter h_phase with
      h_before | ⟨rfl, expired, h_awake, h_found⟩
    · obtain ⟨before, after, r₁, r₂, expired, rfl, h_rest⟩ := ih h_prefix h_before
      exact ⟨before, after ++ [m], r₁, r₂, expired, by simp, h_rest⟩
    · have h_vigilant := vigilant_of_run h h_prefix
      exact ⟨ms, [], r₀, r', expired, rfl, h_prefix, h_step, h_awake, h_waiter,
        h_vigilant.holds_of_examine (List.mem_of_getElem? h_awake) h_found⟩

/-- A waiter whose slot has settled can return with what is there, at once if it is awake and after
a notification that is owed if it sleeps. -/
theorem Vigilant.returns (h : Vigilant r) {i : Nat} {w : Waiter A} {slot : Slot A}
    {answer : Finding A} (h_waiter : r.waiters[i]? = some w)
    (h_waits : ∀ answer, w.phase ≠ .answered answer) (h_slot : r.store.slot? w.key = some slot)
    (h_finding : slot.finding? = some answer) :
    ∃ wakeUp r', (wakeUp = [] ∨ wakeUp = [.notify]) ∧
      run r (wakeUp ++ [.examine i]) = some r' ∧
      r'.waiters[i]? = some { w with phase := .answered answer } := by
  cases h_phase : w.phase with
  | answered a => exact absurd h_phase (h_waits a)
  | awake expired =>
    have h_found := ArtifactStore.examine_of_settled h_slot h_finding expired
    obtain ⟨r', h_step, h_answered⟩ := exists_step_of_found h_waiter h_phase h_found
    exact ⟨[], r', .inl rfl, run_concat.2 ⟨r, rfl, h_step⟩, h_answered⟩
  | asleep =>
    have h_owed : r.owed ≠ 0 := by
      intro h_zero
      have h_pending := h.asleep h_zero w (List.mem_of_getElem? h_waiter) h_phase slot h_slot
      cases slot with
      | pending => cases h_finding
      | ready | failed => cases h_pending
    obtain ⟨n, h_n⟩ := Nat.exists_eq_succ_of_ne_zero h_owed
    have h_notify : step r .notify =
        some { r with owed := n, waiters := r.waiters.map Waiter.notified } := by
      simp only [step, h_n]
    have h_woken : (r.waiters.map Waiter.notified)[i]? = some { w with phase := .awake false } := by
      rw [List.getElem?_map, h_waiter, Option.map_some, Waiter.notified, h_phase]
    have h_found := ArtifactStore.examine_of_settled h_slot h_finding false
    obtain ⟨r', h_step, h_answered⟩ := exists_step_of_found
      (r := { r with owed := n, waiters := r.waiters.map Waiter.notified }) h_woken rfl h_found
    have h_first : run r ([] ++ [.notify]) = some _ := run_concat.2 ⟨r, rfl, h_notify⟩
    exact ⟨[.notify], r', .inr rfl, run_concat.2 ⟨_, h_first, h_step⟩, h_answered⟩

/-- Threads that come to a store to wait, in any number, for any tasks and until any deadlines,
while others request, settle, reject and remove entries in any order. A waiter that has returned has
done so by examining its slot, and its answer is what the slot held at that moment; it has given up
only past its deadline and on a slot that was still pending. While no settling operation still has
to notify, no waiter sleeps on a slot that has settled. And at every moment a waiter whose slot has
settled can return with what is there, whether its deadline has passed or not: at once if it is
awake, and after one notification that is owed if it sleeps. -/
theorem answers_hold_and_no_wakeup_is_lost {now : Moment} {store : ArtifactStore A}
    (h_run : run { now := now, store := store } ms = some r) :
    (∀ i w answer, r.waiters[i]? = some w → w.phase = .answered answer →
      ∃ before after r₁ r₂ expired, ms = before ++ .examine i :: after ∧
        run { now := now, store := store } before = some r₁ ∧
        step r₁ (.examine i) = some r₂ ∧
        r₁.waiters[i]? = some { w with phase := .awake expired } ∧ r₂.waiters[i]? = some w ∧
        answer.Holds r₁ w) ∧
    (r.owed = 0 → ∀ w ∈ r.waiters, w.phase = .asleep →
      ∀ slot, r.store.slot? w.key = some slot → slot.isPending = true) ∧
    ∀ i w slot answer, r.waiters[i]? = some w → (∀ a, w.phase ≠ .answered a) →
      r.store.slot? w.key = some slot → slot.finding? = some answer →
      ∃ wakeUp r', (wakeUp = [] ∨ wakeUp = [.notify]) ∧
        run r (wakeUp ++ [.examine i]) = some r' ∧
        r'.waiters[i]? = some { w with phase := .answered answer } := by
  have h_start : Vigilant { now := now, store := store } := vigilant_of_no_waiters rfl
  have h_vigilant := vigilant_of_run h_start h_run
  refine ⟨fun i w answer h_waiter h_phase => ?_, h_vigilant.asleep, fun i w slot answer => ?_⟩
  · exact returned_of_run h_start rfl h_run h_waiter h_phase
  · exact h_vigilant.returns

/-- Three threads wait for two tasks, one of which nobody compiles. The deadline of the first
passes before its artifact is there, but the thread looks again only after that; the last thread
sleeps until it is notified, and the task is then thrown out and requested again under it. -/
def threeWaiters : List (WaitMove Nat) :=
  [.operate (.request (.ofText "a") 1), .arrive (.ofText "a") 5, .arrive (.ofText "b") 5,
    .arrive (.ofText "a") 100, .examine 0, .examine 1, .examine 2, .stir 2, .examine 2, .tick 10,
    .expire 0, .operate (.publish (.ofText "a") 7), .examine 0, .notify, .operate .clear,
    .operate (.request (.ofText "a") 2), .examine 2, .operate (.fail (.ofText "a") "no")]

/-- The answer of a waiter by its number. -/
def answerOf? (r : WaitRoom A) (i : Nat) : Option (Finding A) :=
  (r.waiters[i]?).bind Waiter.answer?

theorem three_waiters_are_answered :
    ∃ r : WaitRoom Nat, run { now := 0, store := ∅ } threeWaiters = some r ∧ r.owed = 1 ∧
      answerOf? r 0 = some (.ready 7) ∧ answerOf? r 1 = some .missing ∧ answerOf? r 2 = none ∧
      ∃ wakeUp r', (wakeUp = [] ∨ wakeUp = [.notify]) ∧
        run r (wakeUp ++ [.examine 2]) = some r' ∧ answerOf? r' 2 = some (.failed "no") := by
  obtain ⟨r, h_run⟩ : ∃ r : WaitRoom Nat, run { now := 0, store := ∅ } threeWaiters = some r :=
    ⟨_, rfl⟩
  have h_eq : run { now := 0, store := (∅ : ArtifactStore Nat) } threeWaiters = some r := h_run
  obtain ⟨-, -, h_returns⟩ := answers_hold_and_no_wakeup_is_lost h_eq
  cases h_run
  obtain ⟨wakeUp, r', h_wakeUp, h_rest, h_answered⟩ :=
    h_returns 2 ⟨.ofText "a", 100, .asleep⟩ (.failed "no") (.failed "no") rfl (by simp) rfl rfl
  refine ⟨_, rfl, rfl, rfl, rfl, rfl, wakeUp, r', h_wakeUp, h_rest, ?_⟩
  rw [answerOf?, h_answered]
  rfl

end WaitRoom

end KernelDispatch
