import AvalancheTypes.Bytes.BigEndian

/-! The byte packer `Id::prefix` writes into. A packer appends each write to its buffer and
never holds more than its maximum size; a run of writes succeeds exactly when all of them fit,
and the buffer is then their concatenation. A write that does not fit is refused before
anything is written, so a caller that ignores the refusal keeps the packer as it was.
-/

namespace AvalancheTypes

def U64_LEN : Nat := 8

/-- Modelled from the spec: `packer::Packer` is not under src/. Its state is the buffer written
so far, which stays within the maximum size given at creation.
-/
@[ext]
structure Packer where
  maxSize : Nat
  bytes : List UInt8
  within : bytes.length ≤ maxSize

/-- `Packer::new(max_size, initial_cap)`: an empty buffer; the capacity only sizes the first
allocation.
-/
def Packer.new (maxSize _initialCap : Nat) : Packer := ⟨maxSize, [], Nat.zero_le _⟩

/-- `pack_bytes`: append `v`. A write that would take the buffer past the maximum size is
refused before anything is written: `none` stands for the `Err` it returns, and the packer
keeps its buffer.
-/
def Packer.packBytes (p : Packer) (v : List UInt8) : Option Packer :=
  if fits : p.bytes.length + v.length ≤ p.maxSize then
    some ⟨p.maxSize, p.bytes ++ v, by rw [List.length_append]; exact fits⟩
  else none

/-- `pack_u64`: the value as `U64_LEN` big-endian bytes. -/
def Packer.packU64 (p : Packer) (v : UInt64) : Option Packer :=
  p.packBytes (beBytes U64_LEN v.toNat)

/-- `take_bytes`: the buffer. -/
def Packer.takeBytes (p : Packer) : List UInt8 := p.bytes

-----------------------------------------------------------------------------------------
-- One write, then a run of writes
-----------------------------------------------------------------------------------------

/-- One write succeeds exactly when it fits, and appends its bytes. -/
theorem Packer.packBytes_eq_some_iff {p q : Packer} {v : List UInt8}
    : p.packBytes v = some q
      ↔ p.bytes.length + v.length ≤ p.maxSize
        ∧ q.maxSize = p.maxSize ∧ q.bytes = p.bytes ++ v := by
  unfold Packer.packBytes
  split
  case isTrue fits => simp [fits, Packer.ext_iff, eq_comm]
  case isFalse tooLong => simp [tooLong]

/-- A write whose result the caller ignores: the packer keeps its maximum size, and gains the
bytes when they fit and nothing otherwise.
-/
theorem Packer.packBytes_getD (p : Packer) (v : List UInt8)
    : ((p.packBytes v).getD p).maxSize = p.maxSize
      ∧ ((p.packBytes v).getD p).bytes
        = if p.bytes.length + v.length ≤ p.maxSize then p.bytes ++ v else p.bytes := by
  unfold Packer.packBytes
  split <;> simp [*]

/-- An ignored `pack_u64` gains the value's eight bytes when they fit, and nothing otherwise. -/
theorem Packer.packU64_getD (p : Packer) (v : UInt64)
    : ((p.packU64 v).getD p).maxSize = p.maxSize
      ∧ ((p.packU64 v).getD p).bytes
        = if p.bytes.length + U64_LEN ≤ p.maxSize then p.bytes ++ beBytes U64_LEN v.toNat
          else p.bytes := by
  simpa only [length_beBytes] using Packer.packBytes_getD p (beBytes U64_LEN v.toNat)

/-- A run of writes succeeds exactly when all of them fit together, and the buffer is then
their concatenation; witness: induction on the writes with the one-write lemma.
-/
theorem Packer.foldlM_packBytes_eq_some_iff {writes : List (List UInt8)} {p q : Packer}
    : writes.foldlM Packer.packBytes p = some q
      ↔ p.bytes.length + writes.flatten.length ≤ p.maxSize
        ∧ q.maxSize = p.maxSize ∧ q.bytes = p.bytes ++ writes.flatten := by
  induction writes generalizing p with
  | nil =>
      simp only [List.foldlM_nil, List.flatten_nil, List.length_nil, Nat.add_zero,
        List.append_nil, p.within, true_and, pure, Option.some.injEq, Packer.ext_iff, eq_comm]
  | cons w writes ih =>
      rw [List.foldlM_cons, List.flatten_cons, List.length_append, ← List.append_assoc]
      constructor
      · intro run
        obtain ⟨r, first, rest⟩ := Option.bind_eq_some.mp run
        obtain ⟨-, size, buffer⟩ := Packer.packBytes_eq_some_iff.mp first
        obtain ⟨fits, size', buffer'⟩ := ih.mp rest
        rw [size, buffer, List.length_append] at fits
        exact ⟨by omega, size'.trans size, buffer.symm ▸ buffer'⟩
      · rintro ⟨fits, size, buffer⟩
        have within : (p.bytes ++ w).length + writes.flatten.length ≤ p.maxSize := by
          rw [List.length_append]
          omega
        have first : p.packBytes w = some ⟨p.maxSize, p.bytes ++ w, by omega⟩ :=
          Packer.packBytes_eq_some_iff.mpr ⟨by omega, rfl, rfl⟩
        rw [first]
        exact ih.mpr ⟨within, size, buffer⟩

/-- Packing `u64`s is packing their big-endian bytes. -/
theorem Packer.foldlM_packU64 (values : List UInt64) (p : Packer)
    : values.foldlM Packer.packU64 p
      = (values.map fun v => beBytes U64_LEN v.toNat).foldlM Packer.packBytes p := by
  rw [List.foldlM_map]
  rfl

end AvalancheTypes
