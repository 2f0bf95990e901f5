/-
  KernelDispatch.Proofs.Launcher.Programs

  The shape of programs.

  A program is flat if it is a block of tasks, and otherwise it has one fault that
  names its kind or its first statement out of place (`Misshapen`). Taking a program
  apart gives the tasks of a flat program, all of them and in their order, and the
  fault of any other (`takes_exactly_flat_programs`); there is nothing in between.
-/
import KernelDispatch.Program

namespace KernelDispatch

namespace Program

variable {T : Type} {p : Program T}

/-- A program that is no block, or a block in which some statement is no task, with the fault that
names the first thing out of place. -/
inductive Misshapen : Program T → ShapeFault → Prop where
  | notBlock {root : Program T} (h_root : ∀ statements, root ≠ block statements) :
      Misshapen root (.notBlock root.kind)
  | notTask (tasks : List T) {statement : Program T} (rest : List (Program T))
      (h_statement : ∀ t, statement ≠ task t) :
      Misshapen (block (tasks.map task ++ statement :: rest))
        (.notTask tasks.length statement.kind)

/-- Statements are all tasks, or there is a first one that is not. -/
theorem tasks_or_first_other (statements : List (Program T)) :
    (∃ tasks : List T, statements = tasks.map task) ∨
      ∃ (tasks : List T) (statement : Program T) (rest : List (Program T)),
        statements = tasks.map task ++ statement :: rest ∧ ∀ t, statement ≠ task t := by
  induction statements with
  | nil => exact .inl ⟨[], rfl⟩
  | cons first statements ih =>
    cases first with
    | task t =>
      rcases ih with ⟨tasks, rfl⟩ | ⟨tasks, statement, rest, rfl, h_statement⟩
      · exact .inl ⟨t :: tasks, rfl⟩
      · exact .inr ⟨t :: tasks, statement, rest, rfl, h_statement⟩
    | block inner => exact .inr ⟨[], block inner, statements, rfl, by simp⟩
    | other kind => exact .inr ⟨[], other kind, statements, rfl, by simp⟩

theorem tasksFrom?_tasks (index : Nat) (tasks : List T) :
    tasksFrom? index (tasks.map task) = .ok tasks := by
  induction tasks generalizing index with
  | nil => rfl
  | cons t tasks ih =>
    simp only [List.map_cons, tasksFrom?, ih]
    rfl

/-- The first statement that is no task is named by its index. -/
theorem tasksFrom?_other (index : Nat) (tasks : List T) {statement : Program T}
    (rest : List (Program T)) (h_statement : ∀ t, statement ≠ task t) :
    tasksFrom? index (tasks.map task ++ statement :: rest) =
      .error (.notTask (index + tasks.length) statement.kind) := by
  induction tasks generalizing index with
  | nil =>
    cases statement with
    | task t => exact absurd rfl (h_statement t)
    | block | other => rfl
  | cons t tasks ih =>
    simp only [List.map_cons, List.cons_append, tasksFrom?, ih, List.length_cons]
    rw [Nat.add_right_comm, Nat.add_assoc]
    rfl

@[simp] theorem flatTasks?_ofTasks (tasks : List T) : (ofTasks tasks).flatTasks? = .ok tasks :=
  tasksFrom?_tasks 0 tasks

theorem Misshapen.flatTasks?_eq {fault : ShapeFault} (h : Misshapen p fault) :
    p.flatTasks? = .error fault := by
  cases h with
  | notBlock h_root =>
    cases p with
    | block statements => exact absurd rfl (h_root statements)
    | task | other => rfl
  | notTask tasks rest h_statement =>
    have h_first := tasksFrom?_other 0 tasks rest h_statement
    rwa [Nat.zero_add] at h_first

/-- Every program is flat or has a fault. -/
theorem flat_or_misshapen (p : Program T) :
    (∃ tasks, p = ofTasks tasks) ∨ ∃ fault, Misshapen p fault := by
  cases p with
  | task t => exact .inr ⟨_, .notBlock (by simp)⟩
  | other kind => exact .inr ⟨_, .notBlock (by simp)⟩
  | block statements =>
    rcases tasks_or_first_other statements with
      ⟨tasks, rfl⟩ | ⟨tasks, statement, rest, rfl, h_statement⟩
    · exact .inl ⟨tasks, rfl⟩
    · exact .inr ⟨_, .notTask tasks rest h_statement⟩

/-- A program that is not flat has a fault. -/
theorem exists_misshapen (h : ∀ tasks, p ≠ ofTasks tasks) : ∃ fault, Misshapen p fault :=
  p.flat_or_misshapen.resolve_left fun ⟨tasks, h_tasks⟩ => h tasks h_tasks

theorem flatTasks?_eq_error_iff {fault : ShapeFault} :
    p.flatTasks? = .error fault ↔ Misshapen p fault := by
  refine ⟨fun h => ?_, Misshapen.flatTasks?_eq⟩
  rcases p.flat_or_misshapen with ⟨tasks, rfl⟩ | ⟨fault', h_fault⟩
  · rw [flatTasks?_ofTasks] at h
    cases h
  · rw [h_fault.flatTasks?_eq] at h
    cases h
    exact h_fault

/-- A program is taken apart into some tasks exactly if it is put together from them. -/
theorem flatTasks?_eq_ok_iff {tasks : List T} : p.flatTasks? = .ok tasks ↔ ofTasks tasks = p := by
  constructor
  · intro h
    rcases p.flat_or_misshapen with ⟨tasks', rfl⟩ | ⟨fault, h_fault⟩
    · rw [flatTasks?_ofTasks] at h
      cases h
      rfl
    · rw [h_fault.flatTasks?_eq] at h
      cases h
  · rintro rfl
    exact flatTasks?_ofTasks tasks

/-! ## Place by place -/

/-- Statements are tasks if they are the tasks place by place. -/
theorem eq_map_task_iff {statements : List (Program T)} {tasks : List T} :
    statements = tasks.map task ↔
      tasks.length = statements.length ∧
        ∀ (i : Nat) (t : T), tasks[i]? = some t ↔ statements[i]? = some (task t) := by
  constructor
  · rintro rfl
    refine ⟨(List.length_map ..).symm, fun i t => ?_⟩
    simp
  · rintro ⟨h_length, h_places⟩
    apply List.ext_getElem?
    intro i
    rw [List.getElem?_map]
    cases h_i : tasks[i]? with
    | none =>
      rw [List.getElem?_eq_none_iff, h_length] at h_i
      exact List.getElem?_eq_none h_i
    | some t => exact (h_places i t).1 h_i

theorem all_tasks_iff {statements : List (Program T)} :
    (∀ statement ∈ statements, ∃ t, statement = task t) ↔
      ∃ tasks : List T, statements = tasks.map task := by
  constructor
  · intro h
    rcases tasks_or_first_other statements with h_tasks | ⟨tasks, first, rest, rfl, h_first⟩
    · exact h_tasks
    · obtain ⟨t, h_t⟩ := h first (by simp)
      exact absurd h_t (h_first t)
  · rintro ⟨tasks, rfl⟩ statement h_statement
    obtain ⟨t, -, rfl⟩ := List.mem_map.1 h_statement
    exact ⟨t, rfl⟩

theorem getElem?_before_other (tasks : List T) (statement : Program T) (rest : List (Program T))
    {j : Nat} (h_j : j < tasks.length) :
    (tasks.map task ++ statement :: rest)[j]? = some (task tasks[j]) := by
  rw [List.getElem?_append_left (by rwa [List.length_map]), List.getElem?_map,
    List.getElem?_eq_getElem h_j, Option.map_some]

theorem getElem?_other (tasks : List T) (statement : Program T) (rest : List (Program T)) :
    (tasks.map task ++ statement :: rest)[tasks.length]? = some statement := by
  rw [List.getElem?_append_right (Nat.le_of_eq (List.length_map ..)), List.length_map, Nat.sub_self,
    List.getElem?_cons_zero]

/-- The statement at an index is the first of some statements that is no task. -/
structure FirstOther (statements : List (Program T)) (index : Nat) (statement : Program T) :
    Prop where
  here : statements[index]? = some statement
  other : ∀ t, statement ≠ task t
  before : ∀ j < index, ∃ t, statements[j]? = some (task t)

/-- The fault of a block is about the first of its statements that is no task. -/
theorem misshapen_block_iff {statements : List (Program T)} {fault : ShapeFault} :
    Misshapen (block statements) fault ↔
      ∃ i statement, FirstOther statements i statement ∧ fault = .notTask i statement.kind := by
  constructor
  · intro h
    cases h with
    | notBlock h_root => exact absurd rfl (h_root statements)
    | @notTask tasks statement rest h_statement =>
      exact ⟨tasks.length, statement, ⟨getElem?_other .., h_statement,
        fun j h_j => ⟨_, getElem?_before_other tasks statement rest h_j⟩⟩, rfl⟩
  · rintro ⟨i, statement, h_first, rfl⟩
    rcases tasks_or_first_other statements with
      ⟨tasks, rfl⟩ | ⟨tasks, other, rest, rfl, h_other⟩
    · obtain ⟨t, -, rfl⟩ := List.mem_map.1 (List.mem_of_getElem? h_first.here)
      exact absurd rfl (h_first.other t)
    · -- Before the other statement there are tasks only, and `i` does not come after it.
      have h_here := h_first.here
      rcases Nat.lt_trichotomy i tasks.length with h_lt | rfl | h_gt
      · rw [getElem?_before_other _ _ _ h_lt] at h_here
        exact absurd (Option.some.inj h_here).symm (h_first.other _)
      · rw [getElem?_other] at h_here
        obtain rfl := Option.some.inj h_here
        exact .notTask tasks rest h_other
      · obtain ⟨t, h_t⟩ := h_first.before tasks.length h_gt
        rw [getElem?_other] at h_t
        exact absurd (Option.some.inj h_t) (h_other t)

theorem misshapen_iff {fault : ShapeFault} :
    Misshapen p fault ↔
      (∀ statements, p ≠ block statements) ∧ fault = .notBlock p.kind ∨
      ∃ statements i statement, p = block statements ∧ FirstOther statements i statement ∧
        fault = .notTask i statement.kind := by
  constructor
  · intro h
    cases p with
    | block statements =>
      obtain ⟨i, statement, h_first⟩ := misshapen_block_iff.1 h
      exact .inr ⟨statements, i, statement, rfl, h_first⟩
    | task | other =>
      cases h
      exact .inl ⟨by simp, rfl⟩
  · rintro (⟨h_root, rfl⟩ | ⟨statements, i, statement, rfl, h_first⟩)
    · exact .notBlock h_root
    · exact misshapen_block_iff.2 ⟨i, statement, h_first⟩

/-- A program is taken apart exactly if it is a block of tasks, however large it is and however
deep it goes: then the answer is the list of all the tasks in their order, and the block of these
tasks is the program. Of any other program nothing is taken: the answer is its fault, that it is no
block but of its kind, or else the index and the kind of the first statement that is no task,
whatever stands around that. -/
theorem takes_exactly_flat_programs (p : Program T) :
    ((∃ tasks, p.flatTasks? = .ok tasks) ↔
      ∃ statements, p = block statements ∧ ∀ statement ∈ statements, ∃ t, statement = task t) ∧
    (∀ statements tasks, (block statements).flatTasks? = .ok tasks ↔
      tasks.length = statements.length ∧
        ∀ (i : Nat) (t : T), tasks[i]? = some t ↔ statements[i]? = some (task t)) ∧
    (∀ tasks, p.flatTasks? = .ok tasks ↔ ofTasks tasks = p) ∧
    (∀ fault, p.flatTasks? = .error fault ↔
      (∀ statements, p ≠ block statements) ∧ fault = .notBlock p.kind ∨
      ∃ statements i statement, p = block statements ∧ FirstOther statements i statement ∧
        fault = .notTask i statement.kind) ∧
    (∀ kind, (ShapeFault.notBlock kind).message =
      "top-level node is `" ++ kind ++ "`, expected a block") ∧
    ∀ i kind, (ShapeFault.notTask i kind).message =
      "statement " ++ toString i ++ " is `" ++ kind ++ "`, expected an offload" := by
  refine ⟨?_, fun statements tasks => ?_, fun tasks => flatTasks?_eq_ok_iff, fun fault => ?_,
    fun _ => rfl, fun _ _ => rfl⟩
  · constructor
    · rintro ⟨tasks, h_tasks⟩
      obtain rfl := flatTasks?_eq_ok_iff.1 h_tasks
      exact ⟨_, rfl, all_tasks_iff.2 ⟨tasks, rfl⟩⟩
    · rintro ⟨statements, rfl, h_statements⟩
      obtain ⟨tasks, rfl⟩ := all_tasks_iff.1 h_statements
      exact ⟨tasks, flatTasks?_ofTasks tasks⟩
  · rw [flatTasks?_eq_ok_iff, ← eq_map_task_iff, ofTasks, block.injEq, eq_comm]
  · rw [flatTasks?_eq_error_iff, misshapen_iff]

example : (block [task 1, block [task 2], other "loop", task 3]).flatTasks? =
    .error (.notTask 1 "block") := rfl

end Program

end KernelDispatch
