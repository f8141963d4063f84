import AvalancheTypes.Ids.Serde
import AvalancheTypes.Derivation.Prefix
import AvalancheTypes.Derivation.Certificate

/-! The invariant of spec section 3: every identifier has exactly its nominal length. The Rust
structures leave `d` public, so the invariant is one of the values the module's builders
return: each of the builders below, written in `ids.rs`, returns identifiers of their nominal
length. The `Deserialize` that serde derives for the structures reads `d` as it is and is not
among them.
-/

namespace AvalancheTypes

/-- A builder that, whenever it returns a value, returns one satisfying `wellFormed`. -/
def Keeps {β α : Type} (wellFormed : α → Prop) (build : β → Option α) : Prop :=
  ∀ b a, build b = some a → wellFormed a

/-- As `Keeps`, for a builder that may also return an error. -/
def KeepsOk {β α ε : Type} (wellFormed : α → Prop) (build : β → Option (Except ε α)) : Prop :=
  ∀ b a, build b = some (.ok a) → wellFormed a

/-- Every builder of one identifier type keeps `wellFormed`: `empty`, `from_slice`,
`from_str` and the two serde readers.
-/
structure BuildersKeep {α : Type} (wellFormed : α → Prop) (empty : α)
    (fromSlice : List UInt8 → Option α) (fromStr : String → Option (Except Error α))
    (deserialize : Value → Option (Except DeError (Option α)))
    (mustDeserialize : Value → Option (Except DeError α)) : Prop where
  empty : wellFormed empty
  from_slice : Keeps wellFormed fromSlice
  from_str : KeepsOk wellFormed fromStr
  deserialize : ∀ v a, deserialize v = some (.ok (some a)) → wellFormed a
  must_deserialize : KeepsOk wellFormed mustDeserialize

-----------------------------------------------------------------------------------------
-- Each kind of builder
-----------------------------------------------------------------------------------------

section
variable {α : Type} {wellFormed : α → Prop}

theorem keepsOk_fromStrWith {fromSlice : List UInt8 → Option α}
    (keeps : Keeps wellFormed fromSlice) : KeepsOk wellFormed (fromStrWith fromSlice) := by
  intro s a parsed
  obtain ⟨d, -, built⟩ := fromStrWith_eq_ok_iff.mp parsed
  exact keeps d a built

/-- The optional serde reader reads a value only through `from_str`. -/
theorem keeps_deserializeWith {fromStr : String → Option (Except Error α)}
    (keeps : KeepsOk wellFormed fromStr)
    : ∀ v a, deserializeWith fromStr v = some (.ok (some a)) → wellFormed a := by
  intro v a read
  cases v
  case null => cases read
  case other => cases read
  case str s =>
    obtain ⟨r, parsed, mapped⟩ := Option.map_eq_some'.mp read
    obtain ⟨r', fromText, rfl⟩ := Option.map_eq_some'.mp parsed
    cases r' <;> cases mapped
    exact keeps s a fromText

theorem BuildersKeep.of_fromStr {empty : α} {fromSlice : List UInt8 → Option α}
    {fromStr : String → Option (Except Error α)} (message : String)
    (emptyWellFormed : wellFormed empty) (keepsSlice : Keeps wellFormed fromSlice)
    (keepsStr : KeepsOk wellFormed fromStr)
    : BuildersKeep wellFormed empty fromSlice fromStr (deserializeWith fromStr)
        (mustDeserializeWith fromStr message) where
  empty := emptyWellFormed
  from_slice := keepsSlice
  from_str := keepsStr
  deserialize := keeps_deserializeWith keepsStr
  must_deserialize v a read :=
    keeps_deserializeWith keepsStr v a ((mustDeserializeWith_eq_ok_iff fromStr message v a).mp read)

end

theorem keeps_padSlice (len : Nat) {α : Type} (mk : List UInt8 → α) (bytes : α → List UInt8)
    (unwrap : ∀ d, bytes (mk d) = d)
    : Keeps (fun a => (bytes a).length = len) fun d => (padSlice len d).map mk := by
  intro d a built
  obtain ⟨p, padded, rfl⟩ := Option.map_eq_some'.mp built
  rw [unwrap]
  exact length_of_padSlice_eq_some padded

theorem keeps_NodeId_fromSlice
    : Keeps (fun z : NodeId => z.d.length = NODE_ID_LEN) NodeId.fromSlice := by
  intro d z built
  obtain ⟨exact, rfl⟩ := NodeId.fromSlice_eq_some_iff.mp built
  exact exact

theorem keepsOk_NodeId_fromStr
    : KeepsOk (fun z : NodeId => z.d.length = NODE_ID_LEN) NodeId.fromStr := by
  intro s z parsed
  obtain ⟨t, -, parsed⟩ := Option.bind_eq_some.mp parsed
  exact keepsOk_fromStrWith keeps_NodeId_fromSlice t z parsed

-----------------------------------------------------------------------------------------
-- Every builder of the module
-----------------------------------------------------------------------------------------

/-- Each of these builders of `ids.rs` returns identifiers of their nominal length: for each
type `empty`, `from_slice`, `from_str`, `deserialize_*` and `must_deserialize_*`; then
`NodeId::short_id`, `Id::prefix` on any identifier and tags, `NodeId::from_cert_raw`, and
`NodeId::from_cert_file` on any file system.
-/
theorem builders_keep_nominal_length
    : BuildersKeep (fun x : Id => x.d.length = ID_LEN) Id.empty Id.fromSlice Id.fromStr
        deserializeId mustDeserializeId
      ∧ BuildersKeep (fun y : ShortId => y.d.length = SHORT_ID_LEN) ShortId.empty
          ShortId.fromSlice ShortId.fromStr deserializeShortId mustDeserializeShortId
      ∧ BuildersKeep (fun z : NodeId => z.d.length = NODE_ID_LEN) NodeId.empty
          NodeId.fromSlice NodeId.fromStr deserializeNodeId mustDeserializeNodeId
      ∧ Keeps (fun y : ShortId => y.d.length = SHORT_ID_LEN) NodeId.shortId
      ∧ Keeps (fun x : Id => x.d.length = ID_LEN)
          (fun derive : Id × List UInt64 => Id.prefix derive.1 derive.2)
      ∧ KeepsOk (fun z : NodeId => z.d.length = NODE_ID_LEN) NodeId.fromCertRaw
      ∧ ∀ fs, KeepsOk (fun z : NodeId => z.d.length = NODE_ID_LEN) (NodeId.fromCertFile fs) := by
  have keepsId := keeps_padSlice ID_LEN Id.mk Id.d fun _ => rfl
  have keepsShortId := keeps_padSlice SHORT_ID_LEN ShortId.mk ShortId.d fun _ => rfl
  refine ⟨.of_fromStr _ (List.length_replicate _ _) keepsId (keepsOk_fromStrWith keepsId),
    .of_fromStr _ (List.length_replicate _ _) keepsShortId (keepsOk_fromStrWith keepsShortId),
    .of_fromStr _ (List.length_replicate _ _) keeps_NodeId_fromSlice keepsOk_NodeId_fromStr,
    fun z => keepsShortId z.d,
    fun ⟨x, ts⟩ y derived => keepsId (Hash.computeSha256 (x.prefixBytes ts)) y derived,
    fun raw z built => ?_, fun fs p z built => ?_⟩
  · rw [NodeId.fromCertRaw_eq] at built
    cases built
    exact length_bytesToShortAddressBytes raw
  · obtain ⟨-, der, -, rfl⟩ := ((NodeId.fromCertFile_outcomes fs p).ok_iff z).mp built
    exact length_bytesToShortAddressBytes der

theorem builders_keep_nominal_length_two_tags
    : Id.prefix Id.empty [0, 0] = some ⟨Hash.computeSha256 (tagBytes [0, 0])⟩
      ∧ (Hash.computeSha256 (tagBytes [0, 0])).length = ID_LEN :=
  have derived : Id.prefix Id.empty [0, 0] = some ⟨Hash.computeSha256 (tagBytes [0, 0])⟩ := by
    rw [Id.prefix_eq_hash]
    rfl
  ⟨derived, builders_keep_nominal_length.2.2.2.2.1 (Id.empty, [0, 0]) _ derived⟩

end AvalancheTypes
