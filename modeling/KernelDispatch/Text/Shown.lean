/-
  KernelDispatch.Text.Shown

  The shown form of structured values: a record with its fields, a constructor
  with its arguments, a list, an optional value. Each is written on one line.
-/

namespace KernelDispatch.Text

/-- Texts with a comma and a blank between neighbours. -/
def commaSeparated (items : List String) : String :=
  ", ".intercalate items

/-- A record: its name, then its fields in order, each as `name: value`. -/
def shownRecord (name : String) (fields : List (String × String)) : String :=
  name ++ " \x7b " ++ commaSeparated (fields.map fun f => f.1 ++ ": " ++ f.2) ++ " \x7d"

/-- A record of which only the listed fields are shown. -/
def shownPartial (name : String) (fields : List (String × String)) : String :=
  name ++ " \x7b " ++ commaSeparated (fields.map fun f => f.1 ++ ": " ++ f.2) ++ ", .. \x7d"

/-- A constructor applied to one argument. -/
def shownApplied (name argument : String) : String :=
  name ++ "(" ++ argument ++ ")"

/-- A list in square brackets. -/
def shownList (items : List String) : String :=
  "[" ++ commaSeparated items ++ "]"

/-- An optional value. -/
def shownOption : Option String → String
  | none => "None"
  | some s => shownApplied "Some" s

/-- A truth value. -/
def shownBool (b : Bool) : String :=
  if b then "true" else "false"

end KernelDispatch.Text
