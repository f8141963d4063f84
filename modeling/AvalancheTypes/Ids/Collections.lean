import AvalancheTypes.Ids.Basic
import AvalancheTypes.Bytes.BigEndian

/-! The ordered collections `Ids`, `ShortIds` and `NodeIds`: sequences compared by length first,
then element by element. This is the byte order of their wire form, a big-endian `u32` length
followed by the fixed-width identifiers.
-/

namespace AvalancheTypes

/-- `Ids(Vec<Id>)`. -/
structure Ids where
  ids : List Id

/-- `ShortIds(Vec<ShortId>)`. -/
structure ShortIds where
  ids : List ShortId

/-- `NodeIds(Vec<NodeId>)`. -/
structure NodeIds where
  ids : List NodeId

/-- The order of the three collections: `l1.cmp(&l2).then_with(|| self.0.cmp(&other.0))` on
the lengths `l1`, `l2`, then the vectors under the element order `cmp`.
-/
def lengthFirstCmp {α : Type} (cmp : α → α → Ordering) (l₁ l₂ : List α) : Ordering :=
  (compare l₁.length l₂.length).then (lexCmp cmp l₁ l₂)

def Ids.cmp (a b : Ids) : Ordering := lengthFirstCmp Id.cmp a.ids b.ids

def ShortIds.cmp (a b : ShortIds) : Ordering := lengthFirstCmp ShortId.cmp a.ids b.ids

def NodeIds.cmp (a b : NodeIds) : Ordering := lengthFirstCmp NodeId.cmp a.ids b.ids

/-- `PartialEq for Ids`: `self.cmp(other) == Ordering::Equal`. -/
def Ids.eq (a b : Ids) : Bool := a.cmp b == .eq

def ShortIds.eq (a b : ShortIds) : Bool := a.cmp b == .eq

def NodeIds.eq (a b : NodeIds) : Bool := a.cmp b == .eq

/-- The wire form of a sequence of identifiers that the length-first order mirrors: the
length as a big-endian `u32`, then the bytes of each identifier in order.
-/
def packedIds {α : Type} (bytes : α → List UInt8) (l : List α) : List UInt8 :=
  beBytes 4 l.length ++ (l.map bytes).flatten

-----------------------------------------------------------------------------------------
-- Blocks of one width
-----------------------------------------------------------------------------------------

section
variable {α : Type} (bytes : α → List UInt8) {width : Nat}

/-- Concatenations of nonempty blocks of one width compare as the sequences of blocks, by
induction on the first sequence.
-/
theorem lexCmp_flatten (pos : 0 < width) {a b : List α}
    (wa : ∀ x ∈ a, (bytes x).length = width) (wb : ∀ y ∈ b, (bytes y).length = width)
    : lexCmp compare (a.map bytes).flatten (b.map bytes).flatten
      = lexCmp (fun x y => lexCmp compare (bytes x) (bytes y)) a b := by
  induction a generalizing b with
  | nil =>
      cases b with
      | nil => rfl
      | cons y b =>
          obtain ⟨c, cs, block⟩ := List.exists_cons_of_length_pos (wb y (by simp) ▸ pos)
          simp [block, lexCmp]
  | cons x a ih =>
      cases b with
      | nil =>
          obtain ⟨c, cs, block⟩ := List.exists_cons_of_length_pos (wa x (by simp) ▸ pos)
          simp [block, lexCmp]
      | cons y b =>
          simp only [List.map_cons, List.flatten_cons]
          rw [lexCmp_append_of_length_eq _ _ _ ((wa x (by simp)).trans (wb y (by simp)).symm),
            ih (fun x mem => wa x (by simp [mem])) (fun y mem => wb y (by simp [mem]))]
          rfl

/-- Length first, then element by element, is the byte order of the wire form; witness: the
four length bytes compare as the lengths, and the blocks as the identifiers.
-/
theorem lengthFirstCmp_eq_lexCmp_packedIds (pos : 0 < width) {a b : List α}
    (wa : ∀ x ∈ a, (bytes x).length = width) (wb : ∀ y ∈ b, (bytes y).length = width)
    (la : a.length < 2 ^ 32) (lb : b.length < 2 ^ 32)
    : lengthFirstCmp (fun x y => lexCmp compare (bytes x) (bytes y)) a b
      = lexCmp compare (packedIds bytes a) (packedIds bytes b) := by
  rw [packedIds, packedIds, lexCmp_append_of_length_eq _ _ _ (by simp),
    lexCmp_beBytes la lb, lexCmp_flatten bytes pos wa wb, lengthFirstCmp]

end

-----------------------------------------------------------------------------------------
-- The three collections
-----------------------------------------------------------------------------------------

/-- For sequences of `width`-byte elements of fewer than `2 ^ 32` entries, the collection
order `cmp` is the unsigned byte order of the wire form, and `eq` is equality of wire forms.
-/
def OrderIsWireOrder {α β : Type} (wrap : List α → β) (cmp : β → β → Ordering)
    (eq : β → β → Bool) (bytes : α → List UInt8) (width : Nat) : Prop :=
  ∀ a b : List α, (∀ x ∈ a, (bytes x).length = width) → (∀ y ∈ b, (bytes y).length = width) →
    a.length < 2 ^ 32 → b.length < 2 ^ 32 →
    cmp (wrap a) (wrap b) = lexCmp compare (packedIds bytes a) (packedIds bytes b)
    ∧ (eq (wrap a) (wrap b) = true ↔ packedIds bytes a = packedIds bytes b)

/-- A collection ordered length first over the byte order of its elements orders as its wire
form, and is equal exactly when the wire forms are.
-/
theorem orderIsWireOrder_of_lengthFirst {α β : Type} (wrap : List α → β)
    (cmp : β → β → Ordering) (eq : β → β → Bool) (bytes : α → List UInt8) {width : Nat}
    (pos : 0 < width)
    (order : ∀ a b, cmp (wrap a) (wrap b)
      = lengthFirstCmp (fun x y => lexCmp compare (bytes x) (bytes y)) a b)
    (equal : ∀ u v, eq u v = (cmp u v == .eq))
    : OrderIsWireOrder wrap cmp eq bytes width := by
  intro a b wa wb la lb
  have wire := (order a b).trans (lengthFirstCmp_eq_lexCmp_packedIds bytes pos wa wb la lb)
  refine ⟨wire, ?_⟩
  rw [equal, wire, ← lexCmp_bytes_eq_iff]
  cases lexCmp compare (packedIds bytes a) (packedIds bytes b) <;> decide

/-- `Ids`, `ShortIds` and `NodeIds` order as their wire bytes and are equal exactly when
their wire bytes are.
-/
theorem collections_order_is_wire_order
    : OrderIsWireOrder Ids.mk Ids.cmp Ids.eq Id.d ID_LEN
      ∧ OrderIsWireOrder ShortIds.mk ShortIds.cmp ShortIds.eq ShortId.d SHORT_ID_LEN
      ∧ OrderIsWireOrder NodeIds.mk NodeIds.cmp NodeIds.eq NodeId.d NODE_ID_LEN :=
  ⟨orderIsWireOrder_of_lengthFirst _ _ _ _ (by decide) (fun _ _ => rfl) (fun _ _ => rfl),
    orderIsWireOrder_of_lengthFirst _ _ _ _ (by decide) (fun _ _ => rfl) (fun _ _ => rfl),
    orderIsWireOrder_of_lengthFirst _ _ _ _ (by decide) (fun _ _ => rfl) (fun _ _ => rfl)⟩

theorem collections_order_shorter_first
    : Ids.cmp ⟨[⟨List.replicate ID_LEN 0xff⟩]⟩ ⟨[Id.empty, Id.empty]⟩
        = lexCmp compare (packedIds Id.d [⟨List.replicate ID_LEN 0xff⟩])
          (packedIds Id.d [Id.empty, Id.empty])
      ∧ (Ids.eq ⟨[⟨List.replicate ID_LEN 0xff⟩]⟩ ⟨[Id.empty, Id.empty]⟩ = true
        ↔ packedIds Id.d [⟨List.replicate ID_LEN 0xff⟩] = packedIds Id.d [Id.empty, Id.empty]) :=
  collections_order_is_wire_order.1 _ _ (by decide) (by decide) (by decide) (by decide)

end AvalancheTypes
