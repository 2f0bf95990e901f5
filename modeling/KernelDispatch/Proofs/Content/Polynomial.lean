/-
  KernelDispatch.Proofs.Content.Polynomial

  The digest as a polynomial, and which edits it always shows.

  A byte string is hashed piece by piece (`polyHash_append`), and the base has an inverse, so
  that what stands before and after an edit, however long it is, neither makes nor hides a
  difference (`polyHash_context`). The polynomial of three bytes stays below `2 ^ 64`, and
  its base is larger than any byte, so it tells the bytes apart (`eq_of_polyHash_eq`). An edit
  within three neighbouring bytes therefore always changes the digest
  (`small_edits_change_the_digest`). Longer strings do wrap: their hash is the exact value
  modulo `2 ^ 64` (`polyHash_is_wrapped_polynomial`).
-/
import Mathlib.Algebra.BigOperators.Fin
import Mathlib.Algebra.BigOperators.Ring.Finset
import Mathlib.Algebra.Order.BigOperators.Group.Finset
import Mathlib.Data.Nat.Digits.Lemmas
import Mathlib.Data.UInt
import Mathlib.Tactic.Ring
import KernelDispatch.Content.Digest

namespace KernelDispatch

open scoped UInt64.CommRing

/-- The UTF-8 bytes of a text. -/
def utf8Bytes (text : String) : List UInt8 :=
  text.toUTF8.data.toList

theorem digest_ofText_eq (text : String) : Digest.ofText text = ⟨polyHash (utf8Bytes text)⟩ := rfl

theorem utf8Bytes_inj {s t : String} : utf8Bytes s = utf8Bytes t ↔ s = t := by
  constructor
  · intro h
    exact String.toByteArray_inj.1 (ByteArray.ext (Array.toList_inj.1 h))
  · rintro rfl
    rfl

/-! ## Pieces -/

/-- Appending bytes shifts the polynomial so far by as many powers of the base. -/
theorem polyHash_append (xs ys : List UInt8) :
    polyHash (xs ++ ys) = polyHash xs * hashBase ^ ys.length + polyHash ys := by
  induction ys using List.reverseRecOn with
  | nil => simp
  | append_singleton ys b ih =>
    rw [← List.append_assoc, polyHash_snoc, polyHash_snoc, ih, List.length_append,
      List.length_singleton, pow_succ]
    ring

/-- The base is odd, so it has an inverse. -/
theorem isUnit_hashBase : IsUnit hashBase :=
  IsUnit.of_mul_eq_one 5840524504965430455 (by decide)

/-- What stands before and after two byte strings of one length neither makes nor hides a
difference of their hashes. -/
theorem polyHash_context {xs ys : List UInt8} (before after : List UInt8)
    (h_length : xs.length = ys.length) :
    polyHash (before ++ xs ++ after) = polyHash (before ++ ys ++ after) ↔
      polyHash xs = polyHash ys := by
  -- The suffix and the power of the base cancel first, then the prefix.
  rw [polyHash_append, polyHash_append (before ++ ys), add_left_inj,
    (isUnit_hashBase.pow after.length).mul_left_inj, polyHash_append, polyHash_append, h_length,
    add_right_inj]

/-! ## Short strings -/

/-- The value at the base of the polynomial that a byte string spells, without wrapping. -/
def polyValue (bytes : List UInt8) : Nat :=
  Nat.ofDigits hashBase.toNat (bytes.reverse.map UInt8.toNat)

theorem polyValue_snoc (bytes : List UInt8) (b : UInt8) :
    polyValue (bytes ++ [b]) = b.toNat + hashBase.toNat * polyValue bytes := by
  rw [polyValue, List.reverse_append, List.reverse_singleton, List.singleton_append, List.map_cons,
    Nat.ofDigits_cons, polyValue]

/-- The hash is the value of the polynomial modulo `2 ^ 64`. -/
theorem polyHash_toNat (bytes : List UInt8) :
    (polyHash bytes).toNat = polyValue bytes % 2 ^ 64 := by
  induction bytes using List.reverseRecOn with
  | nil => rfl
  | append_singleton bytes b ih =>
    rw [polyHash_snoc, polyValue_snoc, UInt64.toNat_add, UInt64.toNat_mul, ih,
      UInt8.toNat_toUInt64, Nat.mod_add_mod, Nat.add_mod, Nat.mod_mul_mod, ← Nat.add_mod,
      Nat.add_comm, Nat.mul_comm]

theorem polyValue_le (bytes : List UInt8) :
    polyValue bytes ≤ 255 * ∑ i ∈ Finset.range bytes.length, hashBase.toNat ^ i := by
  induction bytes using List.reverseRecOn with
  | nil => rfl
  | append_singleton bytes b ih =>
    have h_b : b.toNat ≤ 255 := Nat.le_of_lt_succ b.toNat_lt
    rw [polyValue_snoc, List.length_append, List.length_singleton]
    calc b.toNat + hashBase.toNat * polyValue bytes
        ≤ 255 + hashBase.toNat * (255 * ∑ i ∈ Finset.range bytes.length, hashBase.toNat ^ i) :=
          Nat.add_le_add h_b (Nat.mul_le_mul_left _ ih)
      _ = 255 * ∑ i ∈ Finset.range (bytes.length + 1), hashBase.toNat ^ i := by
          simp only [Finset.sum_range_succ', pow_succ, ← Finset.sum_mul]
          ring

/-- The value of three bytes does not wrap. -/
theorem polyValue_lt {bytes : List UInt8} (h_short : bytes.length ≤ 3) :
    polyValue bytes < 2 ^ 64 :=
  calc polyValue bytes
      ≤ 255 * ∑ i ∈ Finset.range bytes.length, hashBase.toNat ^ i := polyValue_le bytes
    _ ≤ 255 * ∑ i ∈ Finset.range 3, hashBase.toNat ^ i :=
        Nat.mul_le_mul_left _ (Finset.sum_le_sum_of_subset (Finset.range_mono h_short))
    _ < 2 ^ 64 := by decide

/-- The base is larger than any byte, so the value tells the bytes apart. -/
theorem polyValue_inj {xs ys : List UInt8} (h_length : xs.length = ys.length)
    (h_value : polyValue xs = polyValue ys) : xs = ys := by
  have h_digit (bytes : List UInt8) : ∀ d ∈ bytes.reverse.map UInt8.toNat, d < hashBase.toNat := by
    intro d h_d
    obtain ⟨b, -, rfl⟩ := List.mem_map.1 h_d
    exact b.toNat_lt.trans (by decide)
  have h_digits : xs.reverse.map UInt8.toNat = ys.reverse.map UInt8.toNat :=
    Nat.ofDigits_inj_of_len_eq (by decide) (by simpa using h_length) (h_digit xs) (h_digit ys)
      h_value
  have h_reverse := List.map_injective_iff.2 (fun _ _ => UInt8.toNat_inj.1) h_digits
  exact List.reverse_injective h_reverse

/-- Strings of the same length up to three are told apart by their hashes. -/
theorem eq_of_polyHash_eq {xs ys : List UInt8} (h_length : xs.length = ys.length)
    (h_short : xs.length ≤ 3) (h_hash : polyHash xs = polyHash ys) : xs = ys := by
  refine polyValue_inj h_length ?_
  have h_value := congrArg UInt64.toNat h_hash
  rwa [polyHash_toNat, polyHash_toNat, Nat.mod_eq_of_lt (polyValue_lt h_short),
    Nat.mod_eq_of_lt (polyValue_lt (h_length ▸ h_short))] at h_value

/-! ## Edits -/

/-- Two byte strings differ at places of some window of this width only. -/
def DifferWithin (width : Nat) (xs ys : List UInt8) : Prop :=
  ∃ i, ∀ j, xs[j]? ≠ ys[j]? → i ≤ j ∧ j < i + width

/-- Outside of the window the strings are the same. -/
theorem DifferWithin.split {width : Nat} {xs ys : List UInt8} (h : DifferWithin width xs ys) :
    ∃ i, xs = xs.take i ++ (xs.drop i).take width ++ xs.drop (i + width) ∧
      ys = xs.take i ++ (ys.drop i).take width ++ xs.drop (i + width) := by
  obtain ⟨i, h_window⟩ := h
  have h_same (j : Nat) (h_j : j < i ∨ i + width ≤ j) : xs[j]? = ys[j]? := by
    by_contra h_ne
    have h_in := h_window j h_ne
    omega
  have h_before : xs.take i = ys.take i := by
    refine List.ext_getElem? fun j => ?_
    rw [List.getElem?_take, List.getElem?_take]
    split
    · next h_j => exact h_same j (.inl h_j)
    · rfl
  have h_after : xs.drop (i + width) = ys.drop (i + width) := by
    refine List.ext_getElem? fun j => ?_
    rw [List.getElem?_drop, List.getElem?_drop]
    exact h_same _ (.inr (Nat.le_add_right ..))
  have h_cut (zs : List UInt8) :
      zs = zs.take i ++ (zs.drop i).take width ++ zs.drop (i + width) := by
    rw [List.append_assoc, ← List.drop_drop, List.take_append_drop, List.take_append_drop]
  refine ⟨i, h_cut xs, ?_⟩
  rw [h_before, h_after]
  exact h_cut ys

/-- Two byte strings of one length that differ, and only within three neighbouring bytes, have
different hashes, however long they are and wherever that is. So a text with one byte replaced
has another digest. -/
theorem small_edits_change_the_digest :
    (∀ xs ys : List UInt8, xs.length = ys.length → xs ≠ ys → DifferWithin 3 xs ys →
      polyHash xs ≠ polyHash ys) ∧
    ∀ (s t : String) (i : Nat) (b : UInt8), s ≠ t → utf8Bytes t = (utf8Bytes s).set i b →
      Digest.ofText s ≠ Digest.ofText t := by
  have h_window (xs ys : List UInt8) (h_length : xs.length = ys.length) (h_ne : xs ≠ ys)
      (h_within : DifferWithin 3 xs ys) : polyHash xs ≠ polyHash ys := by
    intro h_hash
    obtain ⟨i, h_xs, h_ys⟩ := h_within.split
    -- The window may reach beyond the end, so the edit may be shorter than three bytes.
    have h_short : ((xs.drop i).take 3).length = ((ys.drop i).take 3).length := by
      simp [h_length]
    have h_hash' := h_hash
    rw [h_xs, h_ys, polyHash_context _ _ h_short] at h_hash'
    have h_edit := eq_of_polyHash_eq h_short (List.length_take_le ..) h_hash'
    exact h_ne (by rw [h_xs, h_edit, ← h_ys])
  refine ⟨h_window, fun s t i b h_ne h_set h_digest => ?_⟩
  refine h_window (utf8Bytes s) (utf8Bytes t) ?_ (mt utf8Bytes_inj.1 h_ne) ⟨i, fun j h_j => ?_⟩
    (Digest.mk.inj h_digest)
  · rw [h_set, List.length_set]
  · by_cases h_i : i = j
    · omega
    · rw [h_set, List.getElem?_set_ne h_i] at h_j
      exact absurd rfl h_j

theorem three_bytes_in_the_middle_change_the_digest :
    polyHash (utf8Bytes "for i in 0..128 { a[i] = 1 }") ≠
        polyHash (utf8Bytes "for i in 0..975 { a[i] = 1 }") ∧
      Digest.ofText "x := y + 1" ≠ Digest.ofText "x := y - 1" := by
  obtain ⟨h_bytes, h_text⟩ := small_edits_change_the_digest
  refine ⟨h_bytes _ _ (by decide) (by decide) ⟨12, fun j h_j => ?_⟩,
    h_text "x := y + 1" "x := y - 1" 7 45 (by decide) (by decide)⟩
  have h_inside : ∀ j < 28, (utf8Bytes "for i in 0..128 { a[i] = 1 }")[j]? ≠
      (utf8Bytes "for i in 0..975 { a[i] = 1 }")[j]? → 12 ≤ j ∧ j < 12 + 3 := by decide
  refine h_inside j (Nat.lt_of_not_le fun h_out => h_j ?_) h_j
  rw [List.getElem?_eq_none h_out, List.getElem?_eq_none h_out]

/-! ## Strings of any length -/

theorem hashBase_toNat : hashBase.toNat = 100000007 := rfl

/-- Appending bytes shifts the value so far by as many powers of the base. -/
theorem polyValue_append (xs ys : List UInt8) :
    polyValue (xs ++ ys) = polyValue xs * hashBase.toNat ^ ys.length + polyValue ys := by
  simp only [polyValue, List.reverse_append, List.map_append, Nat.ofDigits_append, List.length_map,
    List.length_reverse]
  ring

/-- The first byte has the highest power of the base. -/
theorem polyValue_eq_sum (bytes : List UInt8) :
    polyValue bytes =
      ∑ i : Fin bytes.length, bytes[i].toNat * hashBase.toNat ^ (bytes.length - 1 - i) := by
  induction bytes with
  | nil => rfl
  | cons b rest ih =>
    have h_first : polyValue (b :: rest) =
        b.toNat * hashBase.toNat ^ rest.length + polyValue rest := by
      have h_single : polyValue [b] = b.toNat := Nat.ofDigits_singleton ..
      rw [← h_single]
      exact polyValue_append [b] rest
    -- Behind the first byte, places and length are larger by one.
    have h_later (i : Fin rest.length) :
        rest.length + 1 - 1 - (i.succ : Nat) = rest.length - 1 - i := by
      rw [Fin.val_succ]
      omega
    show _ = ∑ i : Fin (rest.length + 1),
      (b :: rest)[i].toNat * hashBase.toNat ^ (rest.length + 1 - 1 - i)
    rw [h_first, ih, Fin.sum_univ_succ]
    simp only [h_later]
    rfl

theorem utf8Bytes_append (s t : String) : utf8Bytes (s ++ t) = utf8Bytes s ++ utf8Bytes t := by
  simp [utf8Bytes, String.toUTF8]

/-- The hash of a byte string is the polynomial with the bytes as its coefficients, taken at the
base in exact arithmetic and then modulo `2 ^ 64`, however long the string is. So hashes compose,
and strings that agree in their length and their hash agree in their hash wherever they stand, and
so do the digests of texts. -/
theorem polyHash_is_wrapped_polynomial :
    (∀ xs ys : List UInt8, (polyHash (xs ++ ys)).toNat =
      ((polyHash xs).toNat * 100000007 ^ ys.length + (polyHash ys).toNat) % 2 ^ 64) ∧
    (∀ bytes : List UInt8, (polyHash bytes).toNat =
      (∑ i : Fin bytes.length, bytes[i].toNat * 100000007 ^ (bytes.length - 1 - i)) % 2 ^ 64) ∧
    (∀ before xs ys after : List UInt8, xs.length = ys.length → polyHash xs = polyHash ys →
      polyHash (before ++ xs ++ after) = polyHash (before ++ ys ++ after)) ∧
    ∀ before s t after : String, (utf8Bytes s).length = (utf8Bytes t).length →
      Digest.ofText s = Digest.ofText t →
        Digest.ofText (before ++ s ++ after) = Digest.ofText (before ++ t ++ after) := by
  refine ⟨fun xs ys => ?_, fun bytes => ?_, fun before xs ys after h_length h_hash => ?_,
    fun before s t after h_length h_digest => ?_⟩
  · -- Exact arithmetic first; the modulus goes through the product and the sum.
    have h_mod : polyValue xs % 2 ^ 64 * hashBase.toNat ^ ys.length + polyValue ys % 2 ^ 64 ≡
        polyValue xs * hashBase.toNat ^ ys.length + polyValue ys [MOD 2 ^ 64] :=
      ((Nat.mod_modEq _ _).mul_right _).add (Nat.mod_modEq _ _)
    rw [polyHash_toNat, polyHash_toNat, polyHash_toNat, polyValue_append, ← hashBase_toNat]
    exact h_mod.symm
  · rw [polyHash_toNat, polyValue_eq_sum, hashBase_toNat]
  · exact (polyHash_context before after h_length).2 h_hash
  · simp only [digest_ofText_eq, utf8Bytes_append, Digest.mk.injEq] at h_digest ⊢
    exact (polyHash_context _ _ h_length).2 h_digest

theorem clashing_tasks_clash_in_a_program :
    (utf8Bytes "rcaelumdduab").length = (utf8Bytes "aaqaaaaaaaja").length ∧
      Digest.ofText "rcaelumdduab" = Digest.ofText "aaqaaaaaaaja" ∧
      Digest.ofText ("loop i: " ++ "rcaelumdduab" ++ "; i += 1") =
        Digest.ofText ("loop i: " ++ "aaqaaaaaaaja" ++ "; i += 1") ∧
      polyHash ([0, 255] ++ utf8Bytes "rcaelumdduab" ++ [10]) =
        polyHash ([0, 255] ++ utf8Bytes "aaqaaaaaaaja" ++ [10]) := by
  obtain ⟨-, -, h_bytes, h_texts⟩ := polyHash_is_wrapped_polynomial
  have h_length : (utf8Bytes "rcaelumdduab").length = (utf8Bytes "aaqaaaaaaaja").length := by decide
  have h_digest : Digest.ofText "rcaelumdduab" = Digest.ofText "aaqaaaaaaaja" := by decide +kernel
  refine ⟨h_length, h_digest, h_texts _ _ _ _ h_length h_digest, h_bytes _ _ _ _ h_length ?_⟩
  simpa only [digest_ofText_eq, Digest.mk.injEq] using h_digest

end KernelDispatch
