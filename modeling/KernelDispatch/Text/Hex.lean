/-
  KernelDispatch.Text.Hex

  Hexadecimal numerals: the shortest one of a number, and the one filled up
  with zeros to a fixed width.
-/

namespace KernelDispatch.Text

/-- The lower-case hexadecimal numeral of a number, without leading zeros. -/
def hex (n : Nat) : String :=
  String.ofList (Nat.toDigits 16 n)

/-- The hexadecimal numeral of a number, filled with zeros on the left up to `width` digits. -/
def hexWidth (width n : Nat) : String :=
  let digits := Nat.toDigits 16 n
  String.ofList (List.replicate (width - digits.length) '0' ++ digits)

end KernelDispatch.Text
