import AvalancheTypes.Formatting.Cb58

/-! The identifier types of `ids.rs`: `Id` (32 bytes), `ShortId` and `NodeId` (20 bytes each),
with their construction from slices, text form, parsing and order. A call that panics (a failed
`assert!`, or a string slice out of bounds) returns `none`.
-/

namespace AvalancheTypes

def ID_LEN : Nat := 32

def SHORT_ID_LEN : Nat := 20

def NODE_ID_LEN : Nat := 20

def NODE_ID_ENCODE_PREFIX : String := "NodeID-"

theorem NODE_ID_LEN_eq_SHORT_ID_LEN : NODE_ID_LEN = SHORT_ID_LEN := rfl

/-- `ids::Id`: its bytes, 32 of them when built by `from_slice`. -/
structure Id where
  d : List UInt8
  deriving DecidableEq, Repr

/-- `ids::ShortId`: its bytes, 20 of them when built by `from_slice`. -/
structure ShortId where
  d : List UInt8
  deriving DecidableEq, Repr

/-- `ids::NodeId`: its bytes, 20 of them when built by `from_slice`. -/
structure NodeId where
  d : List UInt8
  deriving DecidableEq, Repr

/-- The `io::Error` of kind `Other` that each `from_str` returns for a text that fails cb58
decoding, with the message `failed decode_cb58_with_checksum '{cause}'`.
-/
structure Error where
  cause : Formatting.DecodeError
  deriving DecidableEq, Repr

-----------------------------------------------------------------------------------------
-- Construction from slices
-----------------------------------------------------------------------------------------

/-- The `from_slice` of `Id` and `ShortId` at nominal length `len`: `assert!(d.len() <= len)`,
then `d.resize(len, 0)` when shorter.
-/
def padSlice (len : Nat) (d : List UInt8) : Option (List UInt8) :=
  if d.length ≤ len then
    some (if d.length < len then d ++ List.replicate (len - d.length) 0 else d)
  else none

def Id.fromSlice (d : List UInt8) : Option Id := (padSlice ID_LEN d).map Id.mk

def ShortId.fromSlice (d : List UInt8) : Option ShortId := (padSlice SHORT_ID_LEN d).map ShortId.mk

/-- `NodeId::from_slice`: `assert_eq!(d.len(), SHORT_ID_LEN)` and no padding, unlike the
`from_slice` of the other two types.
-/
def NodeId.fromSlice (d : List UInt8) : Option NodeId :=
  if d.length = SHORT_ID_LEN then some ⟨d⟩ else none

def Id.empty : Id := ⟨List.replicate ID_LEN 0⟩

def ShortId.empty : ShortId := ⟨List.replicate SHORT_ID_LEN 0⟩

def NodeId.empty : NodeId := ⟨List.replicate NODE_ID_LEN 0⟩

/-- `NodeId::short_id`: `ShortId::from_slice(&self.d)`. -/
def NodeId.shortId (z : NodeId) : Option ShortId := ShortId.fromSlice z.d

-----------------------------------------------------------------------------------------
-- Order and equality
-----------------------------------------------------------------------------------------

/-- `Ord for Id`: `self.d.cmp(&other.d)`. -/
def Id.cmp (x y : Id) : Ordering := lexCmp compare x.d y.d

def ShortId.cmp (x y : ShortId) : Ordering := lexCmp compare x.d y.d

def NodeId.cmp (x y : NodeId) : Ordering := lexCmp compare x.d y.d

/-- `PartialEq for Id`: `self.cmp(other) == Ordering::Equal`. -/
def Id.eq (x y : Id) : Bool := x.cmp y == .eq

def ShortId.eq (x y : ShortId) : Bool := x.cmp y == .eq

def NodeId.eq (x y : NodeId) : Bool := x.cmp y == .eq

/-- `is_empty`: `(*self) == Self::empty()`. -/
def Id.isEmpty (x : Id) : Bool := x.eq Id.empty

def ShortId.isEmpty (x : ShortId) : Bool := x.eq ShortId.empty

def NodeId.isEmpty (x : NodeId) : Bool := x.eq NodeId.empty

-----------------------------------------------------------------------------------------
-- Text form
-----------------------------------------------------------------------------------------

/-- `Display for Id`, the text of `to_string`. -/
def Id.toString (x : Id) : String := Formatting.encodeCb58WithChecksum x.d

def ShortId.toString (y : ShortId) : String := Formatting.encodeCb58WithChecksum y.d

/-- `Display for NodeId`: the prefix `NodeID-`, then the cb58 text. -/
def NodeId.toString (z : NodeId) : String :=
  NODE_ID_ENCODE_PREFIX ++ Formatting.encodeCb58WithChecksum z.d

/-- The `from_str` of the three types on the text they decode: cb58-decode, mapping a failure
to `Error`, then `from_slice` the payload.
-/
def fromStrWith {α : Type} (fromSlice : List UInt8 → Option α) (s : String)
    : Option (Except Error α) :=
  match Formatting.decodeCb58WithChecksum s with
  | .error e => some (.error ⟨e⟩)
  | .ok decoded => (fromSlice decoded).map .ok

def Id.fromStr (s : String) : Option (Except Error Id) := fromStrWith Id.fromSlice s

def ShortId.fromStr (s : String) : Option (Except Error ShortId) := fromStrWith ShortId.fromSlice s

/-- Rust's `(&s[..n], &s[n..])` on the characters of a string: the split after its first `n`
bytes in UTF-8, which panics when `n` is past the end or inside a character.
-/
def splitAtByte : List Char → Nat → Option (List Char × List Char)
  | chars, 0 => some ([], chars)
  | [], _ + 1 => none
  | c :: chars, n + 1 =>
      if c.utf8Size ≤ n + 1 then
        (splitAtByte chars (n + 1 - c.utf8Size)).map fun split => (c :: split.1, split.2)
      else none

/-- `strip_node_id_prefix`: take `&addr[0..n]` for `n` the prefix's length in bytes, and drop
it when it is the prefix.
-/
def stripNodeIdPrefix (addr : String) : Option String :=
  (splitAtByte addr.data NODE_ID_ENCODE_PREFIX.utf8ByteSize).map fun split =>
    if String.mk split.1 = NODE_ID_ENCODE_PREFIX then String.mk split.2 else addr

/-- `FromStr for NodeId`: strip the prefix when present, then parse as the other types do. -/
def NodeId.fromStr (s : String) : Option (Except Error NodeId) :=
  (stripNodeIdPrefix s).bind (fromStrWith NodeId.fromSlice)

end AvalancheTypes
