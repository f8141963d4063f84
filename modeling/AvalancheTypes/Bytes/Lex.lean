import Mathlib.Order.Defs.LinearOrder
import Mathlib.Data.String.Basic
import Mathlib.Data.Nat.Defs

/-! Rust's `Ord` for slices and vectors: element-wise comparison where the first unequal pair
decides and a proper prefix orders first. Bytes compare as the unsigned numbers they hold.
-/

namespace AvalancheTypes

/-- `<[T] as Ord>::cmp` with the element order `cmp`: the first unequal pair decides, and a
proper prefix is less.
-/
def lexCmp {α : Type} (cmp : α → α → Ordering) : List α → List α → Ordering
  | [], [] => .eq
  | [], _ :: _ => .lt
  | _ :: _, [] => .gt
  | a :: as, b :: bs => (cmp a b).then (lexCmp cmp as bs)

/-- Chaining orderings is associative; witness: the first ordering decides unless `eq`. -/
theorem then_assoc (o₁ o₂ o₃ : Ordering)
    : (o₁.then o₂).then o₃ = o₁.then (o₂.then o₃) := by
  cases o₁ <;> rfl

-----------------------------------------------------------------------------------------
-- Laws of the slice order
-----------------------------------------------------------------------------------------

section
variable {α : Type} (cmp : α → α → Ordering)

/-- Slices whose first blocks have equal lengths compare block by block: the first blocks
decide unless they are equal, by induction on the first block.
-/
theorem lexCmp_append_of_length_eq {p q : List α} (s t : List α) (same : p.length = q.length)
    : lexCmp cmp (p ++ s) (q ++ t) = (lexCmp cmp p q).then (lexCmp cmp s t) := by
  induction p generalizing q with
  | nil =>
      cases q with
      | nil => rfl
      | cons => simp at same
  | cons a p ih =>
      cases q with
      | nil => simp at same
      | cons b q =>
          show (cmp a b).then (lexCmp cmp (p ++ s) (q ++ t)) = _
          rw [ih (Nat.succ.inj same), lexCmp, then_assoc]

/-- When the element order says `eq` exactly on equal elements, so does the slice order,
by induction on the first slice.
-/
theorem lexCmp_eq_iff (eq_iff : ∀ a b, cmp a b = .eq ↔ a = b) {l₁ l₂ : List α}
    : lexCmp cmp l₁ l₂ = .eq ↔ l₁ = l₂ := by
  induction l₁ generalizing l₂ with
  | nil => cases l₂ <;> simp [lexCmp]
  | cons a as ih => cases l₂ <;> simp [lexCmp, Ordering.then_eq_eq, eq_iff, ih]

/-- Comparing the other way round swaps the result when the element order does, by
induction on the first slice.
-/
theorem lexCmp_swap (swap : ∀ a b, cmp b a = (cmp a b).swap) (l₁ l₂ : List α)
    : lexCmp cmp l₂ l₁ = (lexCmp cmp l₁ l₂).swap := by
  induction l₁ generalizing l₂ with
  | nil => cases l₂ <;> rfl
  | cons a as ih =>
      cases l₂ with
      | nil => rfl
      | cons b bs => rw [lexCmp, lexCmp, Ordering.swap_then, ← swap, ← ih]

end

-----------------------------------------------------------------------------------------
-- Unsigned bytes
-----------------------------------------------------------------------------------------

/-- `u8::cmp` is the order of the unsigned values. -/
theorem compare_uint8 (a b : UInt8) : compare a b = compare a.toNat b.toNat := by
  simp only [compare, compareOfLessAndEq, UInt8.lt_def, BitVec.lt_def, UInt8.ext_iff]
  rfl

/-- Bytes compare `eq` exactly when equal. -/
theorem compare_uint8_eq_iff (a b : UInt8) : compare a b = .eq ↔ a = b := by
  rw [compare_uint8, Nat.compare_eq_eq, UInt8.ext_iff]

/-- Byte strings compare `eq` exactly when equal, so Rust's `==` on `Vec<u8>` through `cmp` is
equality.
-/
theorem lexCmp_bytes_eq_iff {l₁ l₂ : List UInt8} : lexCmp compare l₁ l₂ = .eq ↔ l₁ = l₂ :=
  lexCmp_eq_iff _ compare_uint8_eq_iff

/-- A comparison of numbers splits into the quotients, then the remainders, by any divisor;
witness: trichotomy on the quotients.
-/
theorem compare_div_mod (m n k : Nat)
    : compare m n = (compare (m / k) (n / k)).then (compare (m % k) (n % k)) := by
  have hm := Nat.div_add_mod m k
  have hn := Nat.div_add_mod n k
  rcases Nat.lt_trichotomy (m / k) (n / k) with h | h | h
  · rw [Nat.compare_eq_lt.mpr h, Nat.compare_eq_lt.mpr (Nat.lt_of_div_lt_div h)]
    rfl
  · rw [h, Nat.compare_eq_eq.mpr rfl]
    rcases Nat.lt_trichotomy (m % k) (n % k) with h' | h' | h'
    · rw [Nat.compare_eq_lt.mpr h', Nat.compare_eq_lt.mpr (by rw [← hm, ← hn, h]; omega)]
      rfl
    · rw [Nat.compare_eq_eq.mpr h', Nat.compare_eq_eq.mpr (by rw [← hm, ← hn, h, h'])]
      rfl
    · rw [Nat.compare_eq_gt.mpr h', Nat.compare_eq_gt.mpr (by rw [← hm, ← hn, h]; omega)]
      rfl
  · rw [Nat.compare_eq_gt.mpr h, Nat.compare_eq_gt.mpr (Nat.lt_of_div_lt_div h)]
    rfl

end AvalancheTypes
