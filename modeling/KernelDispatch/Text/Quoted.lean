/-
  KernelDispatch.Text.Quoted

  A text in double quotes, as it stands inside the shown form of a value.

  A quote and a backslash get a backslash, tab, line feed, carriage return and
  NUL are written by their letters, and every other character that has no shape
  of its own is written by its number in braces. An apostrophe needs nothing.
-/
import KernelDispatch.Text.Hex
import KernelDispatch.Text.Unshown

namespace KernelDispatch.Text

/-- One character inside double quotes. -/
def quotedChar (c : Char) : String :=
  match c with
  | '"' => "\\\""
  | '\\' => "\\\\"
  | '\n' => "\\n"
  | '\t' => "\\t"
  | '\r' => "\\r"
  | '\x00' => "\\0"
  | c => if isUnshown c then "\\u\x7b" ++ hex c.toNat ++ "\x7d" else c.toString

/-- A text in double quotes. -/
def quoted (s : String) : String :=
  "\"" ++ String.join (s.toList.map quotedChar) ++ "\""

end KernelDispatch.Text
