import Mathlib.Data.Nat.Digits
import AvalancheTypes.Bytes.Lex

/-! Big-endian byte strings: fixed-width integers as the packer writes them, and the
shortest big-endian digits of a number in any base, with leading zeros kept apart.
-/

namespace AvalancheTypes

@[simp]
theorem uint8_toNat_ofNat (n : Nat) : (UInt8.ofNat n).toNat = n % 256 := rfl

-----------------------------------------------------------------------------------------
-- Fixed-width integers
-----------------------------------------------------------------------------------------

/-- The `width` low bytes of `n`, most significant first: `u32::to_be_bytes` at width 4,
`u64::to_be_bytes` at width 8.
-/
def beBytes : Nat → Nat → List UInt8
  | 0, _ => []
  | width + 1, n => beBytes width (n / 256) ++ [UInt8.ofNat (n % 256)]

@[simp]
theorem length_beBytes (width n : Nat) : (beBytes width n).length = width := by
  induction width generalizing n <;> simp [beBytes, *]

/-- Fixed-width big-endian bytes compare as the numbers they encode, by induction on the
width, splitting off the last byte.
-/
theorem lexCmp_beBytes {width m n : Nat} (hm : m < 256 ^ width) (hn : n < 256 ^ width)
    : lexCmp compare (beBytes width m) (beBytes width n) = compare m n := by
  induction width generalizing m n with
  | zero =>
      rw [Nat.pow_zero, Nat.lt_one_iff] at hm hn
      subst hm hn
      rfl
  | succ width ih =>
      rw [beBytes, beBytes, lexCmp_append_of_length_eq _ _ _ (by simp),
        ih (Nat.div_lt_of_lt_mul (by rwa [Nat.mul_comm, ← Nat.pow_succ]))
          (Nat.div_lt_of_lt_mul (by rwa [Nat.mul_comm, ← Nat.pow_succ])),
        compare_div_mod m n 256]
      simp only [lexCmp, compare_uint8, uint8_toNat_ofNat, Nat.mod_mod]
      cases compare (m % 256) (n % 256) <;> rfl

/-- Fixed-width big-endian encoding is injective below its range. -/
theorem beBytes_inj {width m n : Nat} (hm : m < 256 ^ width) (hn : n < 256 ^ width)
    (same : beBytes width m = beBytes width n) : m = n := by
  rw [← Nat.compare_eq_eq, ← lexCmp_beBytes hm hn, same]
  exact lexCmp_bytes_eq_iff.mpr rfl

-----------------------------------------------------------------------------------------
-- Leading zeros
-----------------------------------------------------------------------------------------

section
variable {α : Type} [BEq α] [LawfulBEq α] {zero : α}

/-- The leading run of `zero`s is `zero` repeated. -/
theorem takeWhile_beq_eq_replicate (l : List α)
    : l.takeWhile (· == zero) = List.replicate (l.takeWhile (· == zero)).length zero :=
  List.eq_replicate_iff.mpr ⟨rfl, fun _ mem => by simpa using List.mem_takeWhile_imp mem⟩

/-- Leading `zero`s before a string that does not start with one form its whole leading
run; witness: induction on the count.
-/
theorem takeWhile_replicate_append (count : Nat) {rest : List α}
    (start : rest.head? ≠ some zero)
    : (List.replicate count zero ++ rest).takeWhile (· == zero) = List.replicate count zero
      ∧ (List.replicate count zero ++ rest).dropWhile (· == zero) = rest := by
  induction count with
  | zero =>
      cases rest with
      | nil => simp
      | cons a rest =>
          have first : a ≠ zero := by simpa using start
          simp [first]
  | succ count ih => simpa [List.replicate_succ] using ih

/-- The string left after its leading `zero`s does not start with one, by induction. -/
theorem head?_dropWhile_ne (l : List α) : (l.dropWhile (· == zero)).head? ≠ some zero := by
  induction l with
  | nil => simp
  | cons a l ih => by_cases h : a = zero <;> simp [List.dropWhile_cons, h, ih]

end

-----------------------------------------------------------------------------------------
-- Shortest big-endian digits
-----------------------------------------------------------------------------------------

/-- The value of the big-endian digit string `digits` in base `base`. -/
def ofDigitsBE (base : Nat) (digits : List Nat) : Nat :=
  Nat.ofDigits base digits.reverse

/-- The big-endian digits of `n` in base `base`, with no leading zero (none for zero). -/
def toDigitsBE (base n : Nat) : List Nat :=
  (Nat.digits base n).reverse

section
variable {base : Nat}

@[simp]
theorem ofDigitsBE_toDigitsBE (n : Nat) : ofDigitsBE base (toDigitsBE base n) = n := by
  simp [ofDigitsBE, toDigitsBE, Nat.ofDigits_digits]

theorem lt_of_mem_toDigitsBE (hb : 1 < base) {n d : Nat} (mem : d ∈ toDigitsBE base n)
    : d < base :=
  Nat.digits_lt_base hb (List.mem_reverse.mp mem)

/-- The shortest digits do not start with a zero; witness: the last little-endian digit of
a positive number is nonzero.
-/
theorem toDigitsBE_head? (base n : Nat) : (toDigitsBE base n).head? ≠ some 0 := by
  rw [toDigitsBE, List.head?_reverse]
  rcases Nat.eq_zero_or_pos n with rfl | pos
  · simp
  · rw [List.getLast?_eq_getLast _ (Nat.digits_ne_nil_iff_ne_zero.mpr pos.ne')]
    exact fun last => Nat.getLast_digit_ne_zero base pos.ne' (Option.some.inj last)

@[simp]
theorem ofDigitsBE_cons_zero (digits : List Nat)
    : ofDigitsBE base (0 :: digits) = ofDigitsBE base digits := by
  simp [ofDigitsBE, Nat.ofDigits_append]

/-- Leading zero digits do not change the value. -/
theorem ofDigitsBE_replicate_append (count : Nat) (digits : List Nat)
    : ofDigitsBE base (List.replicate count 0 ++ digits) = ofDigitsBE base digits := by
  induction count <;> simp [List.replicate_succ, *]

theorem ofDigitsBE_dropWhile (digits : List Nat)
    : ofDigitsBE base (digits.dropWhile (· == 0)) = ofDigitsBE base digits := by
  conv_rhs => rw [← List.takeWhile_append_dropWhile (· == 0) digits, takeWhile_beq_eq_replicate]
  rw [ofDigitsBE_replicate_append]

/-- Reading digits back gives the digits without their leading zeros; witness: Mathlib's
`Nat.digits_ofDigits` on the reversed string, whose last digit is then nonzero.
-/
theorem toDigitsBE_ofDigitsBE (hb : 1 < base) {digits : List Nat}
    (bounded : ∀ d ∈ digits, d < base)
    : toDigitsBE base (ofDigitsBE base digits) = digits.dropWhile (· == 0) := by
  rw [← ofDigitsBE_dropWhile, toDigitsBE, ofDigitsBE, List.reverse_eq_iff]
  apply Nat.digits_ofDigits base hb
  · intro d mem
    exact bounded d ((List.dropWhile_suffix _).subset (List.mem_reverse.mp mem))
  · intro ne last
    rw [List.getLast_reverse] at last
    exact head?_dropWhile_ne digits (List.head?_eq_head _ ▸ congrArg some last)

/-- A larger base needs no more digits; witness: digit counts are logarithms plus one. -/
theorem length_toDigitsBE_le {base' : Nat} (hb : 1 < base) (le : base ≤ base') (n : Nat)
    : (toDigitsBE base' n).length ≤ (toDigitsBE base n).length := by
  rcases Nat.eq_zero_or_pos n with rfl | pos
  · simp [toDigitsBE]
  · simp only [toDigitsBE, List.length_reverse,
      Nat.digits_len _ _ (Nat.lt_of_lt_of_le hb le) pos.ne',
      Nat.digits_len _ _ hb pos.ne']
    exact Nat.succ_le_succ (Nat.log_anti_left hb le)

end

-----------------------------------------------------------------------------------------
-- Byte strings as numbers
-----------------------------------------------------------------------------------------

@[simp]
theorem uint8_ofNat_toNat (b : UInt8) : UInt8.ofNat b.toNat = b :=
  UInt8.toNat.inj (Nat.mod_eq_of_lt b.toNat_lt_size)

/-- The unsigned big-endian value of a byte string. -/
def bytesToNat (bytes : List UInt8) : Nat :=
  ofDigitsBE 256 (bytes.map UInt8.toNat)

/-- The shortest big-endian bytes of `n`: no leading zero byte, and none for zero. -/
def natToBytes (n : Nat) : List UInt8 :=
  (toDigitsBE 256 n).map UInt8.ofNat

@[simp]
theorem bytesToNat_natToBytes (n : Nat) : bytesToNat (natToBytes n) = n := by
  have roundTrip : ∀ d ∈ toDigitsBE 256 n, (UInt8.toNat ∘ UInt8.ofNat) d = id d :=
    fun d mem => Nat.mod_eq_of_lt (lt_of_mem_toDigitsBE (by decide) mem)
  rw [bytesToNat, natToBytes, List.map_map, List.map_congr_left roundTrip, List.map_id,
    ofDigitsBE_toDigitsBE]

/-- The bytes of a value are the byte string without its leading zeros. -/
theorem natToBytes_bytesToNat (bytes : List UInt8)
    : natToBytes (bytesToNat bytes) = bytes.dropWhile (· == 0) := by
  have zeroTest : ((· == 0) ∘ UInt8.toNat) = (· == (0 : UInt8)) := by
    funext b
    simp [UInt8.ext_iff]
  have inverse : UInt8.ofNat ∘ UInt8.toNat = id := funext uint8_ofNat_toNat
  rw [natToBytes, bytesToNat, toDigitsBE_ofDigitsBE (by decide)
      (by simpa using fun b _ => b.toNat_lt_size), List.dropWhile_map, zeroTest, List.map_map,
    inverse, List.map_id]

/-- The shortest bytes do not start with a zero byte. -/
theorem natToBytes_head? (n : Nat) : (natToBytes n).head? ≠ some 0 := by
  rw [natToBytes, List.head?_map]
  cases first : (toDigitsBE 256 n).head? with
  | none => simp
  | some d =>
      have hd : d < 256 := lt_of_mem_toDigitsBE (by decide) (List.mem_of_mem_head? first)
      have nz : d ≠ 0 := fun e => toDigitsBE_head? 256 n (e ▸ first)
      simp [UInt8.ext_iff, Nat.mod_eq_of_lt hd, nz]

/-- Leading zero bytes do not change the value. -/
theorem bytesToNat_replicate_append (count : Nat) (bytes : List UInt8)
    : bytesToNat (List.replicate count 0 ++ bytes) = bytesToNat bytes := by
  simp [bytesToNat, ofDigitsBE_replicate_append]

end AvalancheTypes
