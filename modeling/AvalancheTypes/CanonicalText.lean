import AvalancheTypes.Invariants
import AvalancheTypes.Ids.Order

/-! The text form as the identity of an identifier, and each parser on the other types' texts.
Two identifiers print the same text exactly when `==` holds of them, and printing what a parser
returned gives a text that parses back to it. The three parsers share the cb58 codec, so each
also reads the others' texts: a `NodeId`'s text is no cb58 text, since the `I` of `NodeID-` is
outside the Base58 alphabet; an `Id`'s text makes the 20-byte parsers panic; and a `ShortId`'s
text parses as the zero-padded `Id`, whose own text is another.
-/

namespace AvalancheTypes

open Formatting

-----------------------------------------------------------------------------------------
-- Printing is injective
-----------------------------------------------------------------------------------------

theorem Id.toString_inj : Function.Injective Id.toString := fun _ _ same =>
  congrArg Id.mk (encodeCb58WithChecksum_inj same)

theorem ShortId.toString_inj : Function.Injective ShortId.toString := fun _ _ same =>
  congrArg ShortId.mk (encodeCb58WithChecksum_inj same)

/-- The prefix is the same for every `NodeId`, so the cb58 texts after it are equal. -/
theorem NodeId.toString_inj : Function.Injective NodeId.toString := fun _ _ same => by
  simp only [NodeId.toString, String.ext_iff, String.data_append, List.append_cancel_left_eq]
    at same
  exact congrArg NodeId.mk (encodeCb58WithChecksum_inj (String.ext same))

-----------------------------------------------------------------------------------------
-- The text as identity
-----------------------------------------------------------------------------------------

/-- What makes a text form the identity of a type: two values print the same text exactly when
`==` holds of them, and a value parsed from any text prints a text that parses back to it, so
reading and printing again changes nothing.
-/
structure TextIsIdentity {α : Type} (eq : α → α → Bool) (toString : α → String)
    (fromStr : String → Option (Except Error α)) : Prop where
  eq_iff : ∀ x x', eq x x' = true ↔ toString x = toString x'
  reparse : ∀ s x, fromStr s = some (.ok x) → fromStr (toString x) = some (.ok x)

/-- A type whose `==` is equality, whose printing is injective, and whose parser returns only
well-formed values, each of which its text gives back, has its text as identity.
-/
theorem TextIsIdentity.of {α : Type} {eq : α → α → Bool} {toString : α → String}
    {fromStr : String → Option (Except Error α)} {wellFormed : α → Prop}
    (eq_iff : ∀ x x', eq x x' = true ↔ x = x') (inj : Function.Injective toString)
    (keeps : KeepsOk wellFormed fromStr)
    (roundTrip : ∀ x, wellFormed x → fromStr (toString x) = some (.ok x))
    : TextIsIdentity eq toString fromStr where
  eq_iff x x' := (eq_iff x x').trans inj.eq_iff.symm
  reparse s x parsed := roundTrip x (keeps s x parsed)

/-- For each identifier type, `==` holds exactly of values with the same text, and printing
what `from_str` returned on any string gives a text that `from_str` maps back to it: for a
`NodeId` read from its bare text, the prefixed text.
-/
theorem text_is_identity
    : TextIsIdentity Id.eq Id.toString Id.fromStr
      ∧ TextIsIdentity ShortId.eq ShortId.toString ShortId.fromStr
      ∧ TextIsIdentity NodeId.eq NodeId.toString NodeId.fromStr :=
  ⟨.of (IsTotalOrder.of_cmp Id.cmp_eq_iff fun _ _ => rfl).eq_iff Id.toString_inj
      (keepsOk_fromStrWith (keeps_padSlice ID_LEN Id.mk Id.d fun _ => rfl))
      fun _ => Id.fromStr_toString,
    .of (IsTotalOrder.of_cmp ShortId.cmp_eq_iff fun _ _ => rfl).eq_iff ShortId.toString_inj
      (keepsOk_fromStrWith (keeps_padSlice SHORT_ID_LEN ShortId.mk ShortId.d fun _ => rfl))
      fun _ => ShortId.fromStr_toString,
    .of (IsTotalOrder.of_cmp NodeId.cmp_eq_iff fun _ _ => rfl).eq_iff NodeId.toString_inj
      keepsOk_NodeId_fromStr fun _ => NodeId.fromStr_toString⟩

theorem text_is_identity_bare
    : NodeId.fromStr (encodeCb58WithChecksum NodeId.empty.d) = some (.ok NodeId.empty)
      ∧ NodeId.fromStr NodeId.empty.toString = some (.ok NodeId.empty) :=
  have parsed := NodeId.fromStr_bare (z := NodeId.empty) (List.length_replicate _ _)
  ⟨parsed, text_is_identity.2.2.reparse _ _ parsed⟩

-----------------------------------------------------------------------------------------
-- Each parser on the other types' texts
-----------------------------------------------------------------------------------------

/-- A `NodeId`'s text fails Base58 decoding at its fifth character, the `I` of `NodeID-`. -/
theorem decodeCb58WithChecksum_nodeId_toString (z : NodeId)
    : decodeCb58WithChecksum z.toString = .error (.base58 (.invalidCharacter 'I')) := by
  have chars : z.toString.data
      = "Node".data ++ 'I' :: ("D-".data ++ (encodeCb58WithChecksum z.d).data) := by
    simp [NodeId.toString, NODE_ID_ENCODE_PREFIX]
  have failed : Base58.decode z.toString = .error (.invalidCharacter 'I') := by
    rw [Base58.decode, chars, Base58.decodeDigits_append_of_not_mem (by decide) (by decide)]
    rfl
  rw [decodeCb58WithChecksum, failed]

/-- Every parser that decodes cb58 rejects a `NodeId`'s text, whatever its `from_slice`. -/
theorem fromStrWith_nodeId_toString {α : Type} (fromSlice : List UInt8 → Option α) (z : NodeId)
    : fromStrWith fromSlice z.toString = some (.error ⟨.base58 (.invalidCharacter 'I')⟩) := by
  rw [fromStrWith, decodeCb58WithChecksum_nodeId_toString]

/-- How the parsers read the texts of the other types: the text of a well-formed `Id` makes
`ShortId::from_str` and `NodeId::from_str` panic in `from_slice`, its 32 bytes being past their
20; the text of a well-formed `ShortId` parses as the `Id` of its bytes padded with zeros, whose
own text is another; and the text of any `NodeId` is an `Err` for `Id::from_str` and
`ShortId::from_str`, which find an `I` outside the Base58 alphabet.
-/
theorem texts_across_types
    : (∀ x : Id, x.d.length = ID_LEN →
        ShortId.fromStr x.toString = none ∧ NodeId.fromStr x.toString = none)
      ∧ (∀ y : ShortId, y.d.length = SHORT_ID_LEN →
          ∃ x : Id, Id.fromStr y.toString = some (.ok x)
            ∧ x.d = y.d ++ List.replicate (ID_LEN - SHORT_ID_LEN) 0 ∧ x.toString ≠ y.toString)
      ∧ ∀ z : NodeId,
          Id.fromStr z.toString = some (.error ⟨.base58 (.invalidCharacter 'I')⟩)
          ∧ ShortId.fromStr z.toString = some (.error ⟨.base58 (.invalidCharacter 'I')⟩) := by
  refine ⟨fun x wellFormed => ⟨?shortIdPanics, ?nodeIdPanics⟩,
    fun y wellFormed => ⟨_, ?padded, rfl, fun same => ?otherText⟩,
    fun z => ⟨fromStrWith_nodeId_toString _ z, fromStrWith_nodeId_toString _ z⟩⟩
  case shortIdPanics =>
    rw [ShortId.fromStr, Id.toString, fromStrWith_encode, ShortId.fromSlice,
      padSlice_eq_none_iff.mpr (by rw [wellFormed]; decide)]
    rfl
  case nodeIdPanics =>
    rw [NodeId.fromStr, Id.toString,
      stripNodeIdPrefix_encodeCb58WithChecksum (by rw [wellFormed]; decide), Option.some_bind,
      fromStrWith_encode, NodeId.fromSlice, if_neg (by rw [wellFormed]; decide)]
    rfl
  case padded =>
    rw [Id.fromStr, ShortId.toString, fromStrWith_encode, Id.fromSlice,
      padSlice_of_le (by rw [wellFormed]; decide), wellFormed]
    rfl
  case otherText =>
    have lengths := congrArg List.length (encodeCb58WithChecksum_inj same)
    simp [wellFormed, ID_LEN, SHORT_ID_LEN] at lengths

theorem texts_across_types_empty
    : (ShortId.fromStr Id.empty.toString = none ∧ NodeId.fromStr Id.empty.toString = none)
      ∧ ∃ x : Id, Id.fromStr ShortId.empty.toString = some (.ok x)
          ∧ x.d = ShortId.empty.d ++ List.replicate (ID_LEN - SHORT_ID_LEN) 0
          ∧ x.toString ≠ ShortId.empty.toString :=
  ⟨texts_across_types.1 _ (List.length_replicate _ _),
    texts_across_types.2.1 _ (List.length_replicate _ _)⟩

end AvalancheTypes
