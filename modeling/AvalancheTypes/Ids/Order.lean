import AvalancheTypes.Ids.Collections

/-! The six orders of `ids.rs` are total orders in the sense of `Batteries.TransCmp`, they say
`Equal` only of equal values, and the `PartialEq` written through them is structural equality.
The element orders are the byte order keyed on `d`; the collection orders are the length order,
then the element order, so each law is proved once for these shapes.
-/

namespace AvalancheTypes

open Batteries Ordering

/-- What `Ord` and a `PartialEq` written as `self.cmp(other) == Ordering::Equal` promise
together: `cmp` is a total order, `Equal` holds only of equal values, and `==` is equality.
-/
structure IsTotalOrder {α : Type} (cmp : α → α → Ordering) (eq : α → α → Bool) : Prop where
  trans : TransCmp cmp
  cmp_eq_iff : ∀ x y, cmp x y = .eq ↔ x = y
  eq_iff : ∀ x y, eq x y = true ↔ x = y

theorem ordering_beq_eq_true_iff (o : Ordering) : (o == .eq) = true ↔ o = .eq := by
  cases o <;> decide

theorem IsTotalOrder.of_cmp {α : Type} {cmp : α → α → Ordering} {eq : α → α → Bool}
    [trans : TransCmp cmp] (cmp_eq_iff : ∀ x y, cmp x y = .eq ↔ x = y)
    (eqDef : ∀ x y, eq x y = (cmp x y == .eq))
    : IsTotalOrder cmp eq :=
  ⟨trans, cmp_eq_iff, fun x y => by rw [eqDef, ordering_beq_eq_true_iff, cmp_eq_iff]⟩

-----------------------------------------------------------------------------------------
-- Numbers, bytes and slices
-----------------------------------------------------------------------------------------

/-- `u8::cmp` is the order of the unsigned values, keyed on `toNat`. -/
theorem compare_uint8_eq_byKey : (compare : UInt8 → UInt8 → Ordering) = byKey UInt8.toNat compare :=
  funext fun a => funext fun b => compare_uint8 a b

instance transCmpUInt8 : TransCmp (compare : UInt8 → UInt8 → Ordering) := by
  rw [compare_uint8_eq_byKey]
  infer_instance

/-- The collection order is the length order, then the slice order. -/
theorem lengthFirstCmp_eq_compareLex {α : Type} (cmp : α → α → Ordering)
    : lengthFirstCmp cmp = compareLex (byKey List.length compare) (lexCmp cmp) :=
  rfl

section
variable {α : Type} (cmp : α → α → Ordering) [TransCmp cmp]

/-- The slice order is transitive when the element order is: the first pair that is not
`eq` decides, and an `eq` pair can be replaced by either side; by induction on the first
slice.
-/
theorem lexCmp_le_trans {l₁ l₂ l₃ : List α}
    : lexCmp cmp l₁ l₂ ≠ .gt → lexCmp cmp l₂ l₃ ≠ .gt → lexCmp cmp l₁ l₃ ≠ .gt := by
  induction l₁ generalizing l₂ l₃ with
  | nil => cases l₃ <;> simp [lexCmp]
  | cons a as ih =>
      cases l₂ with
      | nil => simp [lexCmp]
      | cons b bs =>
          cases l₃ with
          | nil => cases bs <;> simp [lexCmp]
          | cons c cs =>
              simp only [lexCmp, ne_eq, Ordering.then_eq_gt, not_or, not_and]
              intro first second
              refine ⟨TransCmp.le_trans first.1 second.1, fun ac tail => ?_⟩
              match ab : cmp a b with
              | .gt => exact first.1 ab
              | .eq => exact ih (first.2 ab) (second.2 (TransCmp.cmp_congr_left ab ▸ ac)) tail
              | .lt => exact second.1 (OrientedCmp.cmp_eq_gt.2 (TransCmp.cmp_congr_left ac ▸ ab))

instance transCmpLexCmp : TransCmp (lexCmp cmp) where
  symm l₁ l₂ := (lexCmp_swap cmp (fun a b => (OrientedCmp.symm a b).symm) l₁ l₂).symm
  le_trans := lexCmp_le_trans cmp

instance transCmpLengthFirstCmp : TransCmp (lengthFirstCmp cmp) := by
  rw [lengthFirstCmp_eq_compareLex]
  infer_instance

end

-----------------------------------------------------------------------------------------
-- Equality through the order
-----------------------------------------------------------------------------------------

section
variable {α β : Type} {cmp : β → β → Ordering}

theorem byKey_eq_iff (cmp_eq_iff : ∀ a b, cmp a b = .eq ↔ a = b) {key : α → β}
    (inj : Function.Injective key) (x y : α)
    : byKey key cmp x y = .eq ↔ x = y :=
  (cmp_eq_iff (key x) (key y)).trans inj.eq_iff

/-- Collections compare `eq` exactly when they hold the same elements in the same order. -/
theorem lengthFirstCmp_eq_iff (cmp_eq_iff : ∀ a b, cmp a b = .eq ↔ a = b) (l₁ l₂ : List β)
    : lengthFirstCmp cmp l₁ l₂ = .eq ↔ l₁ = l₂ := by
  rw [lengthFirstCmp, Ordering.then_eq_eq, lexCmp_eq_iff cmp cmp_eq_iff]
  exact ⟨And.right, fun same => ⟨Nat.compare_eq_eq.mpr (congrArg List.length same), same⟩⟩

end

-----------------------------------------------------------------------------------------
-- The six orders
-----------------------------------------------------------------------------------------

instance : TransCmp Id.cmp := inferInstanceAs (TransCmp (byKey Id.d (lexCmp compare)))

instance : TransCmp ShortId.cmp := inferInstanceAs (TransCmp (byKey ShortId.d (lexCmp compare)))

instance : TransCmp NodeId.cmp := inferInstanceAs (TransCmp (byKey NodeId.d (lexCmp compare)))

instance : TransCmp Ids.cmp := inferInstanceAs (TransCmp (byKey Ids.ids (lengthFirstCmp Id.cmp)))

instance : TransCmp ShortIds.cmp :=
  inferInstanceAs (TransCmp (byKey ShortIds.ids (lengthFirstCmp ShortId.cmp)))

instance : TransCmp NodeIds.cmp :=
  inferInstanceAs (TransCmp (byKey NodeIds.ids (lengthFirstCmp NodeId.cmp)))

theorem Id.cmp_eq_iff : ∀ x y : Id, x.cmp y = .eq ↔ x = y :=
  byKey_eq_iff (fun _ _ => lexCmp_bytes_eq_iff) fun ⟨_⟩ ⟨_⟩ same => congrArg Id.mk same

theorem ShortId.cmp_eq_iff : ∀ x y : ShortId, x.cmp y = .eq ↔ x = y :=
  byKey_eq_iff (fun _ _ => lexCmp_bytes_eq_iff) fun ⟨_⟩ ⟨_⟩ same => congrArg ShortId.mk same

theorem NodeId.cmp_eq_iff : ∀ x y : NodeId, x.cmp y = .eq ↔ x = y :=
  byKey_eq_iff (fun _ _ => lexCmp_bytes_eq_iff) fun ⟨_⟩ ⟨_⟩ same => congrArg NodeId.mk same

/-- Each identifier type and each collection is totally ordered by its `cmp`, and its `==`
holds exactly of equal values: of identifiers with the same bytes, and of collections with
the same identifiers in the same order.
-/
theorem orders_are_total
    : IsTotalOrder Id.cmp Id.eq ∧ IsTotalOrder ShortId.cmp ShortId.eq
      ∧ IsTotalOrder NodeId.cmp NodeId.eq ∧ IsTotalOrder Ids.cmp Ids.eq
      ∧ IsTotalOrder ShortIds.cmp ShortIds.eq ∧ IsTotalOrder NodeIds.cmp NodeIds.eq :=
  ⟨.of_cmp Id.cmp_eq_iff fun _ _ => rfl,
    .of_cmp ShortId.cmp_eq_iff fun _ _ => rfl,
    .of_cmp NodeId.cmp_eq_iff fun _ _ => rfl,
    .of_cmp (byKey_eq_iff (lengthFirstCmp_eq_iff Id.cmp_eq_iff)
      fun ⟨_⟩ ⟨_⟩ same => congrArg Ids.mk same) fun _ _ => rfl,
    .of_cmp (byKey_eq_iff (lengthFirstCmp_eq_iff ShortId.cmp_eq_iff)
      fun ⟨_⟩ ⟨_⟩ same => congrArg ShortIds.mk same) fun _ _ => rfl,
    .of_cmp (byKey_eq_iff (lengthFirstCmp_eq_iff NodeId.cmp_eq_iff)
      fun ⟨_⟩ ⟨_⟩ same => congrArg NodeIds.mk same) fun _ _ => rfl⟩

/-- `is_empty`, `(*self) == Self::empty()`, holds exactly of the all-zero value. -/
theorem isEmpty_iff_eq_empty
    : (∀ x : Id, x.isEmpty = true ↔ x = Id.empty)
      ∧ (∀ y : ShortId, y.isEmpty = true ↔ y = ShortId.empty)
      ∧ ∀ z : NodeId, z.isEmpty = true ↔ z = NodeId.empty :=
  ⟨fun x => by rw [Id.isEmpty, Id.eq, ordering_beq_eq_true_iff, Id.cmp_eq_iff],
    fun y => by rw [ShortId.isEmpty, ShortId.eq, ordering_beq_eq_true_iff, ShortId.cmp_eq_iff],
    fun z => by rw [NodeId.isEmpty, NodeId.eq, ordering_beq_eq_true_iff, NodeId.cmp_eq_iff]⟩

end AvalancheTypes
