/-
  KernelDispatch.Proofs.Launcher.Kernels

  What a launch makes of a kernel.

  A kernel that lowers to a flat program gives one record per task in order, the
  `i`-th with the context that the kernel gives when it is asked for the `i`-th time
  (`records_of_flat`). Any other kernel is refused, and `Refusal` says with which
  failure (`records_eq_error_iff`). A kind of kernels that takes note of what it is
  asked for (`KernelKind.logging`) tells how often a launch lowers its kernel and asks
  for a context.
-/
import KernelDispatch.Launcher
import KernelDispatch.Proofs.Launcher.Programs

namespace KernelDispatch

/-! ## The records of a kernel -/

/-- What the owner of a kernel can be asked for: to lower it or for a context. -/
inductive KernelCall where
  | lower
  | context
  deriving DecidableEq

namespace KernelKind

variable {K C : Type} (kind : KernelKind K C) {k k' : K}

/-- A kernel that has been asked for some contexts. -/
def asked (k : K) : Nat → K
  | 0 => k
  | n + 1 => (kind.context (asked k n)).2

/-- The record of the `i`-th task of a kernel. -/
def recordAt (k : K) (i : Nat) (task : String) : Record C :=
  ⟨(kind.context (kind.asked k i)).1, kind.name (kind.asked k i), task⟩

theorem asked_succ (k : K) (n : Nat) : kind.asked (kind.context k).2 n = kind.asked k (n + 1) := by
  induction n with
  | zero => rfl
  | succ n ih =>
    show (kind.context (kind.asked (kind.context k).2 n)).2 = _
    rw [ih]
    rfl

/-- A kernel is asked for one context for each task, in order. -/
theorem recordsOf_eq (k : K) (tasks : List String) :
    kind.recordsOf k tasks = (tasks.mapIdx (kind.recordAt k), kind.asked k tasks.length) := by
  induction tasks generalizing k with
  | nil => rfl
  | cons task tasks ih =>
    -- The kernel that the later tasks see has been asked for one context more.
    have h_later : kind.recordAt (kind.context k).2 = fun i => kind.recordAt k (i + 1) := by
      funext i task
      simp only [recordAt, asked_succ]
    show (_ :: (kind.recordsOf (kind.context k).2 tasks).1,
      (kind.recordsOf (kind.context k).2 tasks).2) = _
    rw [ih, h_later, asked_succ, List.mapIdx_cons]
    rfl

/-- The records of a kernel that is lowered to a flat program: one for each task. -/
theorem records_of_flat {tasks : List String} (h_lowered : kind.lowered k = (.ok (), k'))
    (h_flat : kind.program k' = .ofTasks tasks) :
    kind.records k = (.ok (tasks.mapIdx (kind.recordAt k')), kind.asked k' tasks.length) := by
  simp only [records, h_lowered, h_flat, Program.flatTasks?_ofTasks, recordsOf_eq]

/-! ## Refused kernels -/

/-- Why a kernel `k` is refused, and what has become of it: its lowering has failed, or it has been
lowered to a program that is not flat. -/
inductive Refusal (k : K) : Failure → K → Prop where
  /-- A program that its own lowering calls malformed stays that. -/
  | malformed {kernel reason : String} {k' : K} (h_open : kind.isLowered k = false)
      (h_lower : kind.lower k = (.error (.malformedProgram kernel reason), k')) :
      Refusal k (.malformedProgram kernel reason) k'
  /-- Any other failure of the lowering becomes one of this kernel, with its wording. -/
  | lowering {cause : Failure} {k' : K} (h_open : kind.isLowered k = false)
      (h_lower : kind.lower k = (.error cause, k'))
      (h_cause : ∀ kernel reason, cause ≠ .malformedProgram kernel reason) :
      Refusal k (.lowering (kind.name k') cause.message) k'
  | shape {fault : ShapeFault} {k' : K} (h_lowered : kind.lowered k = (.ok (), k'))
      (h_fault : (kind.program k').Misshapen fault) :
      Refusal k (.malformedProgram (kind.name k') fault.message) k'

/-- The lowering of a kernel fails, or it leads to a program that is not flat. -/
def Unfit (k : K) : Prop :=
  (∃ cause k', kind.isLowered k = false ∧ kind.lower k = (.error cause, k')) ∨
    ∃ k', kind.lowered k = (.ok (), k') ∧ ∀ tasks, kind.program k' ≠ .ofTasks tasks

variable {kind}

/-- What comes of a lowering that fails. -/
theorem lowered_of_error {cause : Failure} (h_open : kind.isLowered k = false)
    (h_lower : kind.lower k = (.error cause, k')) :
    kind.lowered k = (.error (loweringFailure kind k' cause), k') := by
  simp only [lowered, h_open, Bool.false_eq_true, if_false, h_lower]

theorem lowered_eq_error_iff {failure : Failure} :
    kind.lowered k = (.error failure, k') ↔
      kind.isLowered k = false ∧ ∃ cause, kind.lower k = (.error cause, k') ∧
        failure = loweringFailure kind k' cause := by
  constructor
  · intro h
    unfold lowered at h
    split at h
    · cases h
    · next h_open =>
      split at h
      · cases h
      · next cause k'' h_lower =>
        cases h
        exact ⟨by simpa using h_open, cause, h_lower, rfl⟩
  · rintro ⟨h_open, cause, h_lower, rfl⟩
    exact lowered_of_error h_open h_lower

theorem Refusal.records_eq {failure : Failure} (h : kind.Refusal k failure k') :
    kind.records k = (.error failure, k') := by
  cases h with
  | malformed h_open h_lower =>
    simp only [records, lowered_of_error h_open h_lower, loweringFailure]
  | @lowering cause _ h_open h_lower h_cause =>
    have h_failure : loweringFailure kind k' cause = .lowering (kind.name k') cause.message := by
      cases cause with
      | malformedProgram kernel reason => exact absurd rfl (h_cause kernel reason)
      | _ => rfl
    simp only [records, lowered_of_error h_open h_lower, h_failure]
  | shape h_lowered h_fault =>
    simp only [records, h_lowered, h_fault.flatTasks?_eq]

theorem Refusal.of_lowering {cause : Failure} (h_open : kind.isLowered k = false)
    (h_lower : kind.lower k = (.error cause, k')) :
    kind.Refusal k (loweringFailure kind k' cause) k' := by
  cases cause with
  | malformedProgram kernel reason => exact .malformed h_open h_lower
  | _ => exact .lowering h_open h_lower (by simp)

/-- An unfit kernel is refused. -/
theorem Unfit.refusal (h : kind.Unfit k) : ∃ failure k', kind.Refusal k failure k' := by
  rcases h with ⟨cause, k', h_open, h_lower⟩ | ⟨k', h_lowered, h_shape⟩
  · exact ⟨_, k', .of_lowering h_open h_lower⟩
  · obtain ⟨fault, h_fault⟩ := Program.exists_misshapen h_shape
    exact ⟨_, k', .shape h_lowered h_fault⟩

/-- A kernel has no records exactly if it is refused. -/
theorem records_eq_error_iff {failure : Failure} :
    kind.records k = (.error failure, k') ↔ kind.Refusal k failure k' := by
  refine ⟨fun h => ?_, Refusal.records_eq⟩
  unfold records at h
  split at h
  · next h_lowered =>
    cases h
    obtain ⟨h_open, cause, h_lower, rfl⟩ := lowered_eq_error_iff.1 h_lowered
    exact .of_lowering h_open h_lower
  · next h_lowered =>
    split at h
    · next h_fault =>
      cases h
      exact .shape h_lowered (Program.flatTasks?_eq_error_iff.1 h_fault)
    · cases h

/-! ## What a kernel is asked for -/

variable (kind)

/-- Kernels that take note of what they are asked for. -/
def logging : KernelKind (K × List KernelCall) C where
  name k := kind.name k.1
  isLowered k := kind.isLowered k.1
  lower k :=
    let (result, k') := kind.lower k.1
    (result, k', k.2 ++ [.lower])
  program k := kind.program k.1
  context k :=
    let (context, k') := kind.context k.1
    (context, k', k.2 ++ [.context])

/-- The calls by which a kernel is lowered. -/
def loweringCalls (k : K) : List KernelCall :=
  if kind.isLowered k then [] else [.lower]

variable {kind}

theorem logging_lowered (k : K) (log : List KernelCall) :
    kind.logging.lowered (k, log) =
      ((kind.lowered k).1, (kind.lowered k).2, log ++ kind.loweringCalls k) := by
  unfold lowered loweringCalls
  show (if kind.isLowered k = true then _ else _) = _
  cases h_isLowered : kind.isLowered k with
  | true => simp
  | false =>
    simp only [Bool.false_eq_true, if_false, logging]
    cases h_lower : kind.lower k with
    | mk result k' =>
      cases result with
      | ok => simp only [h_lower]
      | error cause => cases cause <;> simp only [h_lower, loweringFailure]

theorem logging_asked (k : K) (log : List KernelCall) (n : Nat) :
    kind.logging.asked (k, log) n = (kind.asked k n, log ++ List.replicate n .context) := by
  induction n with
  | zero => simp [asked]
  | succ n ih =>
    rw [asked, ih, List.replicate_succ', ← List.append_assoc]
    rfl

/-- A kernel that is fit for its launch is lowered if it is not, and then asked for one context for
each task. -/
theorem logging_records_of_flat {tasks : List String} (h_lowered : kind.lowered k = (.ok (), k'))
    (h_flat : kind.program k' = .ofTasks tasks) (log : List KernelCall) :
    kind.logging.records (k, log) =
      (.ok (tasks.mapIdx (kind.recordAt k')), kind.asked k' tasks.length,
        log ++ kind.loweringCalls k ++ List.replicate tasks.length .context) := by
  have h_log : kind.logging.lowered (k, log) = (.ok (), k', log ++ kind.loweringCalls k) := by
    rw [logging_lowered, h_lowered]
  have h_record : kind.logging.recordAt (k', log ++ kind.loweringCalls k) = kind.recordAt k' := by
    funext i task
    simp only [recordAt, logging_asked]
    rfl
  rw [records_of_flat kind.logging h_log h_flat, logging_asked, h_record]

/-- A kernel that is refused is at most lowered, and not asked for a context. -/
theorem logging_records_of_refusal {failure : Failure} (h : kind.Refusal k failure k')
    (log : List KernelCall) :
    kind.logging.records (k, log) = (.error failure, k', log ++ kind.loweringCalls k) := by
  have h_lowered : kind.logging.lowered (k, log) = _ := logging_lowered k log
  cases h with
  | malformed h_open h_lower =>
    rw [lowered_of_error h_open h_lower] at h_lowered
    simp only [records, h_lowered, loweringFailure]
  | lowering h_open h_lower h_cause =>
    have h_refused : kind.records k = _ :=
      Refusal.records_eq (.lowering h_open h_lower h_cause)
    rw [lowered_of_error h_open h_lower] at h_lowered
    simp only [records, lowered_of_error h_open h_lower, Prod.mk.injEq, Except.error.injEq,
      and_true] at h_refused
    simp only [records, h_lowered, h_refused]
  | shape h_shape h_fault =>
    rw [h_shape] at h_lowered
    have h_program : (kind.logging.program (k', log ++ kind.loweringCalls k)).flatTasks? = _ :=
      h_fault.flatTasks?_eq
    simp only [records, h_lowered, h_program]
    rfl

end KernelKind

end KernelDispatch
