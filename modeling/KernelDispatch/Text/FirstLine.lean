/-
  KernelDispatch.Text.FirstLine

  The first line of a text. A line ends at a line feed, and one carriage return
  directly before that line feed belongs to the line's end; a carriage return
  anywhere else, and one at the end of a text without a line feed, is content.
-/

namespace KernelDispatch.Text

/-- A text without a carriage return at its end. -/
def dropReturn (cs : List Char) : List Char :=
  if cs.getLast? = some '\r' then cs.dropLast else cs

/-- The characters of the first line. -/
def firstLineChars (cs : List Char) : List Char :=
  let line := cs.takeWhile (· ≠ '\n')
  -- Without a line feed the line never ends, and a carriage return is content.
  if cs.contains '\n' then dropReturn line else line

/-- The first line of a text, the empty text if there is none. -/
def firstLine (s : String) : String :=
  String.ofList (firstLineChars s.toList)

theorem dropReturn_sublist (cs : List Char) : (dropReturn cs).Sublist cs := by
  unfold dropReturn
  split
  · exact List.dropLast_sublist cs
  · exact List.Sublist.refl cs

/-- A first line holds no line feed. -/
theorem not_mem_firstLineChars (cs : List Char) : '\n' ∉ firstLineChars cs := by
  have h_take : '\n' ∉ cs.takeWhile (· ≠ '\n') := fun h => by
    simpa using List.all_eq_true.1 List.all_takeWhile _ h
  unfold firstLineChars
  dsimp only
  split
  · exact fun h => h_take ((dropReturn_sublist _).subset h)
  · exact h_take

end KernelDispatch.Text
