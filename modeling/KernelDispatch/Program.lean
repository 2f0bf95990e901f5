/-
  KernelDispatch.Program

  The shape of a lowered kernel. A dispatcher takes exactly flat programs: one
  block whose statements are all offloaded tasks. `Program.flatTasks?` returns
  the tasks of a flat program in order and otherwise names the first thing that
  is out of place; it never returns a part of the tasks.
-/
import KernelDispatch.Text.Quoted
import KernelDispatch.Text.Shown

namespace KernelDispatch

/-- A lowered program over tasks of type `T`. -/
inductive Program (T : Type) where
  /-- One task that is compiled and run on its own. -/
  | task (task : T)
  /-- Statements in order. -/
  | block (statements : List (Program T))
  /-- Anything else, by the name of its kind. -/
  | other (kind : String)

/-- Why a program is not flat. -/
inductive ShapeFault where
  /-- The program is not a block but of the given kind. -/
  | notBlock (kind : String)
  /-- The statement at the index is not a task but of the given kind. -/
  | notTask (index : Nat) (kind : String)
  deriving DecidableEq

/-- The wording of a shape fault. -/
def ShapeFault.message : ShapeFault → String
  | .notBlock kind => "top-level node is `" ++ kind ++ "`, expected a block"
  | .notTask index kind =>
    "statement " ++ toString index ++ " is `" ++ kind ++ "`, expected an offload"

namespace Program

variable {T : Type}

/-- The name of a program's kind. -/
def kind : Program T → String
  | .task _ => "offload"
  | block _ => "block"
  | other kind => kind

/-- The tasks of statements that are all tasks, where `index` is the position of the first. -/
def tasksFrom? (index : Nat) : List (Program T) → Except ShapeFault (List T)
  | [] => .ok []
  | .task t :: rest => (tasksFrom? (index + 1) rest).map (t :: ·)
  | statement :: _ => .error (.notTask index statement.kind)

/-- The tasks of a flat program, in order. -/
def flatTasks? : Program T → Except ShapeFault (List T)
  | block statements => tasksFrom? 0 statements
  | root => .error (.notBlock root.kind)

/-- The flat program of some tasks. -/
def ofTasks (tasks : List T) : Program T :=
  block (tasks.map .task)

mutual

/-- The shown form of a program, given the shown form of its tasks. -/
def shown (task : T → String) : Program T → String
  | .task t => Text.shownApplied "Offload" (task t)
  | block statements => Text.shownApplied "Block" (Text.shownList (shownAll task statements))
  | other kind => Text.shownApplied "Other" (Text.quoted kind)

/-- The shown forms of statements. -/
def shownAll (task : T → String) : List (Program T) → List String
  | [] => []
  | statement :: rest => shown task statement :: shownAll task rest

end

end Program

end KernelDispatch
