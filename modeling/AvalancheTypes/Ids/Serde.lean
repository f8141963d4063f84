import AvalancheTypes.Ids.TextForm

/-! The serde binding of the three identifier types: each serializes as its text and
deserializes by `from_str` on a string. The optional binding `deserialize_*` reads a null as
`None`; the required binding `must_deserialize_*` reads the same way and then rejects `None`
with a message naming the type.
-/

namespace AvalancheTypes

/-- Modelled from the spec: the document value a deserializer reads, since serde's data model
is not under src/. A null, a string, or a value of another type.
-/
inductive Value
  | null
  | str (s : String)
  | other
  deriving DecidableEq, Repr

/-- A deserialization error: `serde::de::Error::custom` of `from_str`'s error or of a text of
`ids.rs`, or serde's error for a value that is not a string where a `String` is read.
-/
inductive DeError
  | parse (e : Error)
  | custom (message : String)
  | invalidType
  deriving DecidableEq, Repr

/-- The `Serialize` of the three types: `serializer.serialize_str(&self.to_string())`. -/
def serializeWith {α : Type} (toString : α → String) (x : α) : Value := .str (toString x)

/-- The `fmt_*` of the three types: `String::deserialize`, then `from_str` with its error
mapped through `serde::de::Error::custom`.
-/
def fmtWith {α : Type} (fromStr : String → Option (Except Error α))
    : Value → Option (Except DeError α)
  | .str s => (fromStr s).map fun parsed => parsed.mapError .parse
  | _ => some (.error .invalidType)

/-- The `deserialize_*` of the three types: `Option::deserialize` of a wrapper read by `fmt_*`,
a null being `None`.
-/
def deserializeWith {α : Type} (fromStr : String → Option (Except Error α))
    : Value → Option (Except DeError (Option α))
  | .null => some (.ok none)
  | present => (fmtWith fromStr present).map fun read => read.map some

/-- The `must_deserialize_*` of the three types: `Option::deserialize` as `deserialize_*` does,
then `None` is the error `empty`.
-/
def mustDeserializeWith {α : Type} (fromStr : String → Option (Except Error α)) (empty : String)
    (v : Value) : Option (Except DeError α) :=
  (deserializeWith fromStr v).map fun read => read.bind fun
    | some unwrapped => .ok unwrapped
    | none => .error (.custom empty)

def Id.serialize (x : Id) : Value := serializeWith Id.toString x

def fmtId : Value → Option (Except DeError Id) := fmtWith Id.fromStr

def deserializeId : Value → Option (Except DeError (Option Id)) := deserializeWith Id.fromStr

def mustDeserializeId : Value → Option (Except DeError Id) :=
  mustDeserializeWith Id.fromStr "empty Id from deserialization"

def ShortId.serialize (y : ShortId) : Value := serializeWith ShortId.toString y

def fmtShortId : Value → Option (Except DeError ShortId) := fmtWith ShortId.fromStr

def deserializeShortId : Value → Option (Except DeError (Option ShortId)) :=
  deserializeWith ShortId.fromStr

def mustDeserializeShortId : Value → Option (Except DeError ShortId) :=
  mustDeserializeWith ShortId.fromStr "empty ShortId from deserialization"

def NodeId.serialize (z : NodeId) : Value := serializeWith NodeId.toString z

def fmtNodeId : Value → Option (Except DeError NodeId) := fmtWith NodeId.fromStr

def deserializeNodeId : Value → Option (Except DeError (Option NodeId)) :=
  deserializeWith NodeId.fromStr

def mustDeserializeNodeId : Value → Option (Except DeError NodeId) :=
  mustDeserializeWith NodeId.fromStr "empty NodeId from deserialization"

-----------------------------------------------------------------------------------------
-- The two binding modes
-----------------------------------------------------------------------------------------

/-- The required mode succeeds exactly where the optional mode reads a value. -/
theorem mustDeserializeWith_eq_ok_iff {α : Type} (fromStr : String → Option (Except Error α))
    (empty : String) (v : Value) (x : α)
    : mustDeserializeWith fromStr empty v = some (.ok x)
      ↔ deserializeWith fromStr v = some (.ok (some x)) := by
  rw [mustDeserializeWith]
  rcases deserializeWith fromStr v with _ | _ | _ | y
  all_goals simp [Except.bind]

end AvalancheTypes
