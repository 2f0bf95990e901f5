/-
  KernelDispatch.Proofs.Launcher.Refusals

  A refused launch changes nothing.

  A kernel whose lowering fails, or that is lowered to a program that is not flat
  (`KernelKind.Unfit`), is refused before anything is batched. The launcher stays as it
  is, so every session goes on as if the launch had not been attempted, but for what
  the kernel's own lowering has made of it (`refused_launch_changes_nothing`).
-/
import KernelDispatch.Proofs.Launcher.Sessions

namespace KernelDispatch

variable {K C : Type}

/-- The number of the kernel that a call launches. -/
def LauncherCall.kernel? : LauncherCall C → Option Nat
  | launch i .. => some i
  | _ => none

namespace Launcher

variable {kind : KernelKind K C} {k k' : K} {failure : Failure}

/-- A refused launch comes to its failure, and the launcher is as before. -/
theorem launch_of_refusal (h : kind.Refusal k failure k') (l : Launcher C)
    (optimizer : Optimizer C) :
    l.launch optimizer kind k = (.returned (.error failure), l, k', []) := by
  simp only [launch, h.records_eq]

theorem launchBy_of_refusal (h : kind.Refusal k failure k') (l : Launcher C)
    (optimizer : Optimizer C) (ms : List (Move C)) :
    l.launchBy optimizer kind k ms = some (.returned (.error failure), l, k', []) := by
  simp only [launchBy, h.records_eq]

namespace Session

variable {σ τ : Session K C}

/-- A session in which one kernel is another one. -/
def withKernel (σ : Session K C) (i : Nat) (k : K) : Session K C :=
  { σ with kernels := Function.update σ.kernels i k }

/-- After a refused launch only the kernel has changed. -/
theorem call_of_refusal {i : Nat} (h : kind.Refusal (σ.kernels i) failure k')
    (optimizer : Optimizer C) (ms : List (Move C)) :
    call kind σ (.launch i optimizer ms) =
      some (σ.withKernel i k', some (.returned (.error failure)), []) := by
  simp only [call, launchBy_of_refusal h, Option.map_some]
  rfl

/-- A call that does not launch a kernel does not depend on it. -/
theorem call_withKernel {c : LauncherCall C} {i : Nat} (h : c.kernel? ≠ some i) (k : K) :
    call kind (σ.withKernel i k) c = (call kind σ c).map fun (τ, o) => (τ.withKernel i k, o) := by
  cases c with
  | launch j optimizer ms =>
    have h_ne : j ≠ i := fun h_eq => h (congrArg some h_eq)
    simp only [call, withKernel, Function.update_of_ne h_ne, Option.map_map]
    refine congrArg (Option.map · _) (funext fun r => ?_)
    simp only [Function.comp, Function.update_comm h_ne]
  | flush ms =>
    simp only [call, withKernel, Option.map_map]
    rfl
  | dropArtifacts =>
    simp only [call, withKernel, Option.map_map]
    rfl
  | pause ms =>
    simp only [call, withKernel]
    split
    · rw [Option.map_map]
      rfl
    · rfl

/-- Calls that do not launch a kernel do not depend on it. -/
theorem calls_withKernel {cs : List (LauncherCall C)} {i : Nat} (h : ∀ c ∈ cs, c.kernel? ≠ some i)
    (k : K) :
    calls kind (σ.withKernel i k) cs =
      (calls kind σ cs).map fun (τ, os) => (τ.withKernel i k, os) := by
  induction cs generalizing σ with
  | nil => rfl
  | cons c cs ih =>
    obtain ⟨h_first, h_rest⟩ := List.forall_mem_cons.1 h
    simp only [calls, call_withKernel h_first, Option.bind_eq_bind]
    cases call kind σ c with
    | none => rfl
    | some r =>
      simp only [Option.map_some, Option.bind_some, ih h_rest]
      cases calls kind r.1 cs <;> rfl

/-- A launch of a kernel whose lowering fails, or whose program is not flat, comes to the failure
that says so, whatever the optimizer is and however the threads move. The kernel has been asked at
most to lower itself, nothing has happened, and the launcher is what it was. So every session goes
on with what this lowering has made of the kernel, and calls that do not launch it come to the same
as if the launch had not been attempted. -/
theorem refused_launch_changes_nothing (h_unfit : kind.Unfit k) :
    ∃ failure k', kind.Refusal k failure k' ∧
      (∀ log, kind.logging.records (k, log) =
        (.error failure, k', log ++ kind.loweringCalls k)) ∧
      (∀ (l : Launcher C) (optimizer : Optimizer C),
        l.launch optimizer kind k = (.returned (.error failure), l, k', []) ∧
        ∀ ms, l.launchBy optimizer kind k ms = some (.returned (.error failure), l, k', [])) ∧
      ∀ (σ : Session K C) (i : Nat) (optimizer : Optimizer C) (ms : List (Move C))
        (cs : List (LauncherCall C)), σ.kernels i = k →
        calls kind σ (.launch i optimizer ms :: cs) =
          (calls kind (σ.withKernel i k') cs).map
            (fun (τ, os) => (τ, (some (.returned (.error failure)), []) :: os)) ∧
        ((∀ c ∈ cs, c.kernel? ≠ some i) →
          calls kind σ (.launch i optimizer ms :: cs) = (calls kind σ cs).map
            fun (τ, os) => (τ.withKernel i k', (some (.returned (.error failure)), []) :: os)) := by
  obtain ⟨failure, k', h_refusal⟩ := h_unfit.refusal
  refine ⟨failure, k', h_refusal, KernelKind.logging_records_of_refusal h_refusal,
    fun l optimizer => ⟨launch_of_refusal h_refusal l optimizer,
      launchBy_of_refusal h_refusal l optimizer⟩, ?_⟩
  rintro σ i optimizer ms cs rfl
  have h_goesOn : calls kind σ (.launch i optimizer ms :: cs) =
      (calls kind (σ.withKernel i k') cs).map
        fun (τ, os) => (τ, (some (.returned (.error failure)), []) :: os) := by
    simp only [calls, call_of_refusal h_refusal, Option.bind_eq_bind, Option.bind_some]
    cases calls kind (σ.withKernel i k') cs <;> rfl
  refine ⟨h_goesOn, fun h_others => ?_⟩
  rw [h_goesOn, calls_withKernel h_others, Option.map_map]
  rfl

/-- A kernel that has been lowered to a loop is refused for its shape. -/
theorem loop_is_refused :
    countingKernels.Unfit 100 ∧ ∃ failure k', countingKernels.Refusal 100 failure k' ∧
      failure = .malformedProgram "k" "top-level node is `loop`, expected a block" ∧ k' = 100 ∧
      ∀ (l : Launcher Nat) (optimizer : Optimizer Nat),
        l.launch optimizer countingKernels 100 = (.returned (.error failure), l, k', []) := by
  have h_unfit : countingKernels.Unfit 100 := .inr ⟨100, rfl, fun tasks h => nomatch h⟩
  obtain ⟨failure, k', h_refusal, -, h_launch, -⟩ := refused_launch_changes_nothing h_unfit
  have h_records : countingKernels.records 100 =
      (.error (.malformedProgram "k" "top-level node is `loop`, expected a block"), 100) := rfl
  obtain ⟨h_failure, h_kernel⟩ := Prod.mk.inj (h_refusal.records_eq.symm.trans h_records)
  exact ⟨h_unfit, failure, k', h_refusal, Except.error.inj h_failure, h_kernel,
    fun l optimizer => (h_launch l optimizer).1⟩

end Session

end Launcher

end KernelDispatch
