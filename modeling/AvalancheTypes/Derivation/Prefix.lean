import AvalancheTypes.Derivation.Packer
import AvalancheTypes.Ids.TextForm

/-! `Id::prefix`: a child identifier derived from an identifier and a sequence of `u64` tags by
hashing the tags' big-endian bytes followed by the identifier's bytes. `prefix` sizes its
packer `prefixes.len() + U64_LEN + 32` and ignores the result of every write, so a write past
that size is dropped: with at most one tag every byte reaches the hash, and with two or more
the parent's bytes never do, nor the tags past the size.
-/

namespace AvalancheTypes

/-- Each tag as eight big-endian bytes, in order. -/
def tagBytes (prefixes : List UInt64) : List UInt8 :=
  (prefixes.map fun v => beBytes U64_LEN v.toNat).flatten

/-- The bytes of spec section 4.4: the tags' bytes, then the identifier's bytes. -/
def derivationBytes (x : Id) (prefixes : List UInt64) : List UInt8 :=
  tagBytes prefixes ++ x.d

/-- The bytes `Id::prefix` hands to `compute_sha256`: the buffer of a packer of maximum size
`n = prefixes.len() + U64_LEN + 32` after each tag is packed, then the identifier's bytes.
`prefix` ignores the `Result` of each `pack_u64` and of `pack_bytes`, so a refused write leaves
the packer as it was.
-/
def Id.prefixBytes (x : Id) (prefixes : List UInt64) : List UInt8 :=
  let n := prefixes.length + U64_LEN + 32
  let packer := Packer.new n n
  let packer := prefixes.foldl (fun packer pfx => (packer.packU64 pfx).getD packer) packer
  let packer := (packer.packBytes x.d).getD packer
  packer.takeBytes

/-- `Id::prefix`: `from_slice` of the SHA-256 of the packed bytes. -/
def Id.prefix (x : Id) (prefixes : List UInt64) : Option Id :=
  Id.fromSlice (Hash.computeSha256 (x.prefixBytes prefixes))

-----------------------------------------------------------------------------------------
-- The bytes of the tags
-----------------------------------------------------------------------------------------

@[simp]
theorem tagBytes_nil : tagBytes [] = [] := rfl

@[simp]
theorem tagBytes_cons (v : UInt64) (prefixes : List UInt64)
    : tagBytes (v :: prefixes) = beBytes U64_LEN v.toNat ++ tagBytes prefixes := rfl

/-- The tags take eight bytes each. -/
@[simp]
theorem length_tagBytes (prefixes : List UInt64)
    : (tagBytes prefixes).length = U64_LEN * prefixes.length := by
  induction prefixes with
  | nil => rfl
  | cons v prefixes ih =>
      rw [tagBytes_cons, List.length_append, ih, length_beBytes, List.length_cons, Nat.mul_succ,
        Nat.add_comm]

theorem length_derivationBytes (x : Id) (prefixes : List UInt64)
    : (derivationBytes x prefixes).length = U64_LEN * prefixes.length + x.d.length := by
  rw [derivationBytes, List.length_append, length_tagBytes]

/-- The bytes of spec section 4.4 determine the tags and the identifier: their length fixes
the number of tags, and each eight-byte block is one tag; witness: induction on the tags.
-/
theorem derivationBytes_inj {x y : Id} {ts us : List UInt64} (wx : x.d.length = ID_LEN)
    (wy : y.d.length = ID_LEN) (same : derivationBytes x ts = derivationBytes y us)
    : ts = us ∧ x = y := by
  have count : ts.length = us.length := by
    have := congrArg List.length same
    simp only [length_derivationBytes, wx, wy, U64_LEN] at this
    omega
  induction ts generalizing us with
  | nil =>
      cases us with
      | nil => exact ⟨rfl, by cases x; cases y; simpa [derivationBytes] using same⟩
      | cons => cases count
  | cons t ts ih =>
      cases us with
      | nil => cases count
      | cons u us =>
          simp only [derivationBytes, tagBytes_cons, List.append_assoc] at same
          obtain ⟨block, rest⟩ := List.append_inj same (by simp)
          obtain ⟨tags, ids⟩ := ih rest (Nat.succ.inj count)
          exact ⟨by rw [UInt64.toNat.inj (beBytes_inj t.toNat_lt_size u.toNat_lt_size block),
            tags], ids⟩

-----------------------------------------------------------------------------------------
-- What the packer holds
-----------------------------------------------------------------------------------------

/-- The tag loop of `prefix`, whose results are ignored: a tag is written while eight bytes of
room remain and refused from then on, so the buffer gains the bytes of as many leading tags as
fit; by induction on the tags.
-/
theorem foldl_packU64_getD (prefixes : List UInt64) {p q : Packer}
    (run : prefixes.foldl (fun packer pfx => (packer.packU64 pfx).getD packer) p = q)
    : q.maxSize = p.maxSize
      ∧ q.bytes = p.bytes ++ tagBytes (prefixes.take ((p.maxSize - p.bytes.length) / U64_LEN)) := by
  induction prefixes generalizing p with
  | nil =>
      subst run
      simp
  | cons v prefixes ih =>
      obtain ⟨size, written⟩ := ih run
      obtain ⟨size', written'⟩ := Packer.packU64_getD p v
      refine ⟨size.trans size', ?_⟩
      rw [written, written', size']
      split
      case isTrue fits =>
        have room : (p.maxSize - p.bytes.length) / U64_LEN
            = (p.maxSize - (p.bytes ++ beBytes U64_LEN v.toNat).length) / U64_LEN + 1 := by
          simp only [List.length_append, length_beBytes, U64_LEN] at fits ⊢
          omega
        rw [room, List.take_succ_cons, tagBytes_cons, List.append_assoc]
      case isFalse full =>
        have room : (p.maxSize - p.bytes.length) / U64_LEN = 0 := by
          simp only [U64_LEN] at full ⊢
          omega
        simp [room]

/-- What `prefix` hands the hash: the bytes of the tags that fit its packer, then the parent's
bytes when they fit after them.
-/
theorem Id.prefixBytes_eq (x : Id) (prefixes : List UInt64)
    : x.prefixBytes prefixes
      = tagBytes (prefixes.take ((prefixes.length + U64_LEN + 32) / U64_LEN))
        ++ if (tagBytes (prefixes.take ((prefixes.length + U64_LEN + 32) / U64_LEN))).length
              + x.d.length ≤ prefixes.length + U64_LEN + 32 then x.d else [] := by
  obtain ⟨size, written⟩ := foldl_packU64_getD prefixes
    (p := Packer.new (prefixes.length + U64_LEN + 32) (prefixes.length + U64_LEN + 32)) rfl
  simp only [Id.prefixBytes, Packer.takeBytes, (Packer.packBytes_getD _ x.d).2]
  rw [size, written]
  simp only [Packer.new, List.length_nil, Nat.sub_zero, List.nil_append]
  split <;> simp

/-- With at most one tag, `prefix` hands the hash every byte of spec section 4.4: the packer
holds `8k + 32 ≤ k + 40` bytes.
-/
theorem Id.prefixBytes_of_length_le_one {x : Id} (wellFormed : x.d.length = ID_LEN)
    {prefixes : List UInt64} (few : prefixes.length ≤ 1)
    : x.prefixBytes prefixes = derivationBytes x prefixes := by
  have all : prefixes.take ((prefixes.length + U64_LEN + 32) / U64_LEN) = prefixes :=
    List.take_of_length_le (by simp only [U64_LEN]; omega)
  have fits : U64_LEN * prefixes.length + x.d.length ≤ prefixes.length + U64_LEN + 32 := by
    simp only [wellFormed, U64_LEN, ID_LEN]
    omega
  rw [Id.prefixBytes_eq, all, length_tagBytes, if_pos fits, derivationBytes]

/-- With two or more tags, `prefix` hands the hash only the bytes of the tags that fit its
packer: after them the parent's 32 bytes never fit.
-/
theorem Id.prefixBytes_of_two_le {x : Id} (wellFormed : x.d.length = ID_LEN)
    {prefixes : List UInt64} (many : 2 ≤ prefixes.length)
    : x.prefixBytes prefixes
      = tagBytes (prefixes.take ((prefixes.length + U64_LEN + 32) / U64_LEN)) := by
  have refused : ¬U64_LEN * (prefixes.take ((prefixes.length + U64_LEN + 32) / U64_LEN)).length
      + x.d.length ≤ prefixes.length + U64_LEN + 32 := by
    simp only [List.length_take, wellFormed, U64_LEN, ID_LEN]
    omega
  rw [Id.prefixBytes_eq, length_tagBytes, if_neg refused, List.append_nil]

-----------------------------------------------------------------------------------------
-- The derived identifier
-----------------------------------------------------------------------------------------

/-- `prefix` never panics: the digest has the 32 bytes `from_slice` keeps as they are. -/
theorem Id.prefix_eq_hash (x : Id) (prefixes : List UInt64)
    : x.prefix prefixes = some ⟨Hash.computeSha256 (x.prefixBytes prefixes)⟩ := by
  have digest : (Hash.computeSha256 (x.prefixBytes prefixes)).length = ID_LEN :=
    Hash.length_computeSha256 _
  unfold Id.prefix
  rw [Id.fromSlice, padSlice_of_length_eq digest, Option.map_some']

/-- `Id::prefix` on a 32-byte identifier: with at most one tag, the identifier whose bytes are
the SHA-256 of the spec's derivation bytes; with two or more, the SHA-256 of the bytes of the
tags that fit the packer alone, as many as there are eight-byte blocks in `k + 40`.
-/
theorem Id.prefix_eq {x : Id} (wellFormed : x.d.length = ID_LEN) (prefixes : List UInt64)
    : x.prefix prefixes
      = some ⟨Hash.computeSha256
          (if prefixes.length ≤ 1 then derivationBytes x prefixes
           else tagBytes (prefixes.take ((prefixes.length + U64_LEN + 32) / U64_LEN)))⟩ := by
  rw [Id.prefix_eq_hash]
  split
  case isTrue few => rw [Id.prefixBytes_of_length_le_one wellFormed few]
  case isFalse many => rw [Id.prefixBytes_of_two_le wellFormed (by omega)]

theorem prefix_eq_two_tags
    : Id.empty.d.length = ID_LEN
      ∧ Id.empty.prefix [0, 0]
        = some ⟨Hash.computeSha256
            (if ([0, 0] : List UInt64).length ≤ 1 then derivationBytes Id.empty [0, 0]
             else tagBytes (([0, 0] : List UInt64).take ((2 + U64_LEN + 32) / U64_LEN)))⟩ :=
  ⟨List.length_replicate _ _, Id.prefix_eq (List.length_replicate _ _) [0, 0]⟩

/-- Derivations with at most one tag are injective before hashing: for 32-byte parents, two
different pairs of tags and parent hand the hash different bytes.
-/
theorem Id.prefixBytes_inj {x y : Id} {ts us : List UInt64} (wx : x.d.length = ID_LEN)
    (wy : y.d.length = ID_LEN) (oneX : ts.length ≤ 1) (oneY : us.length ≤ 1)
    (distinct : (ts, x) ≠ (us, y)) : x.prefixBytes ts ≠ y.prefixBytes us := by
  rw [Id.prefixBytes_of_length_le_one wx oneX, Id.prefixBytes_of_length_le_one wy oneY]
  intro same
  obtain ⟨rfl, rfl⟩ := derivationBytes_inj wx wy same
  exact distinct rfl

theorem prefixBytes_inj_two_parents
    : Id.empty.prefixBytes [7] ≠ (⟨List.replicate ID_LEN 1⟩ : Id).prefixBytes [7] :=
  Id.prefixBytes_inj (List.length_replicate _ _) (List.length_replicate _ _) (by decide)
    (by decide) (by decide)

/-- The loop of `prefix` packs all its tags exactly when there are at most five: the `8k`
tag bytes against the maximum size `k + 40`. From six tags on, a `pack_u64` call itself goes
past the bound.
-/
theorem prefix_tag_loop_fits_iff (prefixes : List UInt64)
    : (prefixes.foldlM Packer.packU64
        (Packer.new (prefixes.length + U64_LEN + 32) (prefixes.length + U64_LEN + 32))).isSome
      ↔ prefixes.length ≤ 5 := by
  simp only [Packer.foldlM_packU64, Option.isSome_iff_exists, Packer.foldlM_packBytes_eq_some_iff,
    Packer.new, List.length_nil, Nat.zero_add, List.nil_append, ← tagBytes.eq_1, length_tagBytes]
  constructor
  · rintro ⟨q, fits, -⟩
    simp only [U64_LEN] at fits
    omega
  · intro few
    have fits : U64_LEN * prefixes.length ≤ prefixes.length + U64_LEN + 32 := by
      simp only [U64_LEN]
      omega
    exact ⟨⟨_, _, (length_tagBytes prefixes).symm ▸ fits⟩, fits, rfl, rfl⟩

-----------------------------------------------------------------------------------------
-- Two tags
-----------------------------------------------------------------------------------------

/-- With two tags `prefix` sizes its packer for `2 + U64_LEN + 32 = 42` bytes but writes
`2 * U64_LEN + 32 = 48`: the size adds the tag count where the writes multiply it. The
parent's write is refused and ignored, so the empty identifier's child is the hash of the
sixteen tag bytes alone.
-/
theorem prefix_two_tags_overflow
    : ([0, 0] : List UInt64).length + U64_LEN + 32 = 42
      ∧ (derivationBytes Id.empty [0, 0]).length = 48
      ∧ Id.empty.prefixBytes [0, 0] = tagBytes [0, 0]
      ∧ Id.empty.prefix [0, 0] = some ⟨Hash.computeSha256 (tagBytes [0, 0])⟩ :=
  ⟨rfl, rfl, rfl, by rw [Id.prefix_eq_hash]; rfl⟩

/-- With two tags the packer `prefix` creates takes both tags, sixteen bytes, and then refuses
the parent's thirty-two: the parent's bytes never reach the hash, and every 32-byte parent
hands it the same bytes and derives the same child.
-/
theorem prefix_refuses_parent_bytes
    : (∃ p : Packer,
        ([0, 0] : List UInt64).foldlM Packer.packU64
          (Packer.new ([0, 0].length + U64_LEN + 32) ([0, 0].length + U64_LEN + 32)) = some p
        ∧ p.takeBytes.length = 2 * U64_LEN ∧ p.packBytes Id.empty.d = none)
      ∧ ∀ y : Id, y.d.length = ID_LEN →
          y.prefixBytes [0, 0] = Id.empty.prefixBytes [0, 0]
          ∧ y.prefix [0, 0] = Id.empty.prefix [0, 0] := by
  refine ⟨⟨⟨42, beBytes U64_LEN 0 ++ beBytes U64_LEN 0, by decide⟩, rfl, rfl, rfl⟩,
    fun y wellFormed => ?_⟩
  have same : y.prefixBytes [0, 0] = Id.empty.prefixBytes [0, 0] := by
    rw [Id.prefixBytes_of_two_le wellFormed (by decide),
      Id.prefixBytes_of_two_le (x := Id.empty) (List.length_replicate _ _)
        (show 2 ≤ ([0, 0] : List UInt64).length by decide)]
  exact ⟨same, by rw [Id.prefix_eq_hash, Id.prefix_eq_hash, same]⟩

theorem prefix_refuses_parent_bytes_ones
    : (⟨List.replicate ID_LEN 1⟩ : Id).d.length = ID_LEN ∧ (⟨List.replicate ID_LEN 1⟩ : Id) ≠ Id.empty
      ∧ (⟨List.replicate ID_LEN 1⟩ : Id).prefixBytes [0, 0] = Id.empty.prefixBytes [0, 0]
      ∧ Id.prefix ⟨List.replicate ID_LEN 1⟩ [0, 0] = Id.empty.prefix [0, 0] :=
  ⟨List.length_replicate _ _, by decide,
    prefix_refuses_parent_bytes.2 _ (List.length_replicate _ _)⟩

end AvalancheTypes
