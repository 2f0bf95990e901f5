/-
  KernelDispatch.Content.Digest

  The 64-bit digest of a program text.

  The bytes of a text are the coefficients of a polynomial, and the digest is the
  polynomial's value at a fixed base in 64-bit arithmetic. Appending a byte is
  therefore one multiplication and one addition (`polyHash_snoc`). Different
  texts may have the same digest.
-/
import KernelDispatch.Text.Hex
import KernelDispatch.Text.Shown

namespace KernelDispatch

/-- The point at which the polynomial of the bytes is evaluated. -/
def hashBase : UInt64 := 100000007

/-- One more byte: the polynomial so far is multiplied by the base. -/
def hashStep (acc : UInt64) (b : UInt8) : UInt64 :=
  acc * hashBase + b.toUInt64

/-- The value at the base of the polynomial that a byte string spells, modulo `2 ^ 64`. -/
def polyHash (bytes : List UInt8) : UInt64 :=
  bytes.foldl hashStep 0

@[simp] theorem polyHash_nil : polyHash [] = 0 := rfl

/-- Appending a byte multiplies by the base and adds the byte. -/
theorem polyHash_snoc (bytes : List UInt8) (b : UInt8) :
    polyHash (bytes ++ [b]) = polyHash bytes * hashBase + b.toUInt64 := by
  simp [polyHash, hashStep]

/-- A digest. Digests are ordered as numbers. -/
structure Digest where
  value : UInt64
  deriving DecidableEq

namespace Digest

/-- The digest of a text is taken from its UTF-8 bytes. -/
def ofText (text : String) : Digest :=
  ⟨polyHash text.toUTF8.data.toList⟩

/-- The written form: sixteen lower-case hexadecimal digits. -/
def text (d : Digest) : String :=
  Text.hexWidth 16 d.value.toNat

/-- The shown form: the digest in decimal. -/
def shown (d : Digest) : String :=
  Text.shownApplied "ContentHash" (toString d.value.toNat)

/-- Whether the first digest is at most the second. -/
def le (a b : Digest) : Bool :=
  decide (a.value ≤ b.value)

/-- Digests in ascending order; equal ones are kept. -/
def sorted (ds : List Digest) : List Digest :=
  ds.mergeSort le

end Digest

end KernelDispatch
