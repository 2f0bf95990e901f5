/-
  KernelDispatch.Proofs.Content.ThueMorse

  Texts whose digests always collide.

  The Thue-Morse word of some order over two letters is the word of the order before,
  followed by the same word with the letters exchanged (`thueMorse_succ`). So each order
  multiplies the difference of the two hashes by a power of the base less one, which is
  divisible by one more power of two than the last (`two_pow_dvd_hashBase_pow_sub_one`). From
  order 11 on these powers of two make up the factor `2 ^ 64`, and the hashes are the same
  (`polyHash_thueMorse`).
-/
import Mathlib.Data.Nat.Bits
import KernelDispatch.Proofs.Content.Polynomial

namespace KernelDispatch

open scoped UInt64.CommRing

/-! ## The words -/

/-- The number of ones in the binary form of a number. -/
def ones (i : Nat) : Nat :=
  i.bits.count true

/-- The Thue-Morse word of length `2 ^ n`: the letter at a place is the first one if the place has
an even number of ones, and otherwise the second. With the letters exchanged it is the
complement. -/
def thueMorse {α : Type} (x y : α) (n : Nat) : List α :=
  (List.range (2 ^ n)).map fun i => if ones i % 2 = 0 then x else y

/-- The text of a Thue-Morse word over two characters. -/
def thueMorseText (x y : Char) (n : Nat) : String :=
  String.ofList (thueMorse x y n)

theorem ones_bit (b : Bool) (i : Nat) : ones (Nat.bit b i) = ones i + b.toNat := by
  by_cases h : i = 0 ∧ b = false
  · obtain ⟨rfl, rfl⟩ := h
    rfl
  · rw [ones, Nat.bits_append_bit i b (by grind), List.count_cons, ← ones]
    cases b <;> rfl

/-- A new highest bit is one more. -/
theorem ones_two_pow_add {n i : Nat} (h_i : i < 2 ^ n) : ones (2 ^ n + i) = ones i + 1 := by
  -- From the lowest bit on.
  induction n generalizing i with
  | zero =>
    obtain rfl : i = 0 := by omega
    rfl
  | succ n ih =>
    obtain ⟨b, j, rfl⟩ : ∃ b j, i = Nat.bit b j := ⟨_, _, (Nat.bit_bodd_div2 i).symm⟩
    have h_split : 2 ^ (n + 1) + Nat.bit b j = Nat.bit b (2 ^ n + j) := by
      rw [Nat.bit_val, Nat.bit_val, pow_succ]
      ring
    have h_j : j < 2 ^ n := by
      rw [Nat.bit_val, pow_succ] at h_i
      omega
    rw [h_split, ones_bit, ones_bit, ih h_j]
    ring

theorem length_thueMorse {α : Type} (x y : α) (n : Nat) : (thueMorse x y n).length = 2 ^ n := by
  rw [thueMorse, List.length_map, List.length_range]

theorem map_thueMorse {α β : Type} (f : α → β) (x y : α) (n : Nat) :
    (thueMorse x y n).map f = thueMorse (f x) (f y) n := by
  rw [thueMorse, List.map_map, thueMorse]
  refine List.map_congr_left fun i _ => ?_
  exact apply_ite f _ x y

/-- A word of the next order is the word followed by its complement. -/
theorem thueMorse_succ {α : Type} (x y : α) (n : Nat) :
    thueMorse x y (n + 1) = thueMorse x y n ++ thueMorse y x n := by
  rw [thueMorse, pow_succ, Nat.mul_two, List.range_add, List.map_append, List.map_map, thueMorse,
    thueMorse]
  congr 1
  refine List.map_congr_left fun i h_i => ?_
  have h_ones := ones_two_pow_add (List.mem_range.1 h_i)
  rw [Function.comp_apply, h_ones]
  by_cases h_even : ones i % 2 = 0
  · rw [if_pos h_even, if_neg (by omega)]
  · rw [if_neg h_even, if_pos (by omega)]

example : String.ofList (thueMorse 'a' 'b' 4) = "abbabaabbaababba" := by decide

/-- The first letters of a word and of its complement differ. -/
theorem thueMorse_ne {α : Type} {x y : α} (h_ne : x ≠ y) (n : Nat) :
    thueMorse x y n ≠ thueMorse y x n := by
  have h_first (x y : α) : (thueMorse x y n)[0]? = some x := by
    rw [thueMorse, List.getElem?_map, List.getElem?_range (Nat.two_pow_pos n)]
    rfl
  intro h
  have h_letters := congrArg (·[0]?) h
  simp only [h_first, Option.some.injEq] at h_letters
  exact h_ne h_letters

/-! ## Their hashes -/

/-- Each squaring of the base makes its distance from one divisible by two once more. -/
theorem two_pow_dvd_hashBase_pow_sub_one (n : Nat) :
    (2 : UInt64) ^ (n + 1) ∣ hashBase ^ 2 ^ n - 1 := by
  induction n with
  | zero => exact ⟨50000003, by decide⟩
  | succ n ih =>
    have h_two : (2 : UInt64) ∣ hashBase ^ 2 ^ n - 1 := (dvd_pow_self 2 n.succ_ne_zero).trans ih
    have h_square : hashBase ^ 2 ^ (n + 1) - 1 =
        (hashBase ^ 2 ^ n - 1) * (hashBase ^ 2 ^ n - 1 + 2) := by
      rw [pow_succ, pow_mul]
      ring
    rw [h_square, pow_succ]
    exact mul_dvd_mul ih (dvd_add h_two (dvd_refl 2))

/-- The hashes of a word and of its complement differ by a multiple of a power of two that grows
with every order. -/
theorem two_pow_dvd_polyHash_sub (p q : UInt8) (n : Nat) :
    (2 : UInt64) ^ ∑ i ∈ Finset.range n, (i + 1) ∣
      polyHash (thueMorse p q n) - polyHash (thueMorse q p n) := by
  induction n with
  | zero => exact one_dvd _
  | succ n ih =>
    have h_step : polyHash (thueMorse p q (n + 1)) - polyHash (thueMorse q p (n + 1)) =
        (polyHash (thueMorse p q n) - polyHash (thueMorse q p n)) * (hashBase ^ 2 ^ n - 1) := by
      rw [thueMorse_succ, thueMorse_succ, polyHash_append, polyHash_append, length_thueMorse,
        length_thueMorse]
      ring
    rw [h_step, Finset.sum_range_succ, pow_add]
    exact mul_dvd_mul ih (two_pow_dvd_hashBase_pow_sub_one n)

/-- From order 11 on the two hashes are the same. -/
theorem polyHash_thueMorse {n : Nat} (h_n : 11 ≤ n) (p q : UInt8) :
    polyHash (thueMorse p q n) = polyHash (thueMorse q p n) := by
  have h_zero : (2 : UInt64) ^ 64 = 0 := by decide +kernel
  have h_exponent : 64 ≤ ∑ i ∈ Finset.range n, (i + 1) :=
    calc 64 ≤ ∑ i ∈ Finset.range 11, (i + 1) := by decide
      _ ≤ ∑ i ∈ Finset.range n, (i + 1) :=
        Finset.sum_le_sum_of_subset (Finset.range_mono h_n)
  have h_dvd := (pow_dvd_pow 2 h_exponent).trans (two_pow_dvd_polyHash_sub p q n)
  rw [h_zero, zero_dvd_iff, sub_eq_zero] at h_dvd
  exact h_dvd

/-! ## Their texts -/

/-- Characters of one byte each are their own UTF-8 bytes. -/
theorem utf8Bytes_ofList {cs : List Char} (h_cs : ∀ c ∈ cs, c.utf8Size = 1) :
    utf8Bytes (String.ofList cs) = cs.map fun c => c.val.toUInt8 := by
  have h_bytes : utf8Bytes (String.ofList cs) = cs.flatMap String.utf8EncodeChar := by
    simp [utf8Bytes, String.toUTF8, String.toByteArray_ofList, List.utf8Encode]
  rw [h_bytes, List.flatMap_congr fun c h_c => String.utf8EncodeChar_eq_singleton (h_cs c h_c),
    List.map_eq_flatMap]

theorem utf8Bytes_thueMorseText {x y : Char} (h_x : x.utf8Size = 1) (h_y : y.utf8Size = 1)
    (n : Nat) :
    utf8Bytes (thueMorseText x y n) = thueMorse x.val.toUInt8 y.val.toUInt8 n := by
  rw [thueMorseText, utf8Bytes_ofList, map_thueMorse]
  intro c h_c
  obtain ⟨i, -, rfl⟩ := List.mem_map.1 h_c
  split
  · exact h_x
  · exact h_y

theorem thueMorseText_ne {x y : Char} (h_ne : x ≠ y) (n : Nat) :
    thueMorseText x y n ≠ thueMorseText y x n :=
  fun h => thueMorse_ne h_ne n (String.ofList_injective h)

/-- From order 11 on the text of a word and that of its complement have the same digest. -/
theorem digest_thueMorseText {n : Nat} (h_n : 11 ≤ n) {x y : Char} (h_x : x.utf8Size = 1)
    (h_y : y.utf8Size = 1) :
    Digest.ofText (thueMorseText x y n) = Digest.ofText (thueMorseText y x n) := by
  rw [digest_ofText_eq, digest_ofText_eq, utf8Bytes_thueMorseText h_x h_y,
    utf8Bytes_thueMorseText h_y h_x, polyHash_thueMorse h_n]

end KernelDispatch
