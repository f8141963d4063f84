import AvalancheTypes.Ids.Basic

/-! Text form of the identifiers: every well-formed identifier parses back from its text, and
every string is sorted by `from_str` according to the payload it decodes to. Parsing reads the
cb58 codec only through its bijection theorem.
-/

namespace AvalancheTypes

open Formatting

-----------------------------------------------------------------------------------------
-- Construction from slices
-----------------------------------------------------------------------------------------

section
variable {len : Nat} {d p : List UInt8}

theorem padSlice_eq_none_iff : padSlice len d = none ↔ len < d.length := by
  unfold padSlice
  split <;> simp <;> omega

/-- A slice within the nominal length is padded with zeros up to it. -/
theorem padSlice_of_le (within : d.length ≤ len)
    : padSlice len d = some (d ++ List.replicate (len - d.length) 0) := by
  unfold padSlice
  split <;> simp <;> omega

/-- Every slice `from_slice` accepts gives exactly the nominal length. -/
theorem length_of_padSlice_eq_some (padded : padSlice len d = some p) : p.length = len := by
  unfold padSlice at padded
  split at padded <;> cases padded
  split <;> (try simp only [List.length_append, List.length_replicate]) <;> omega

/-- A slice of the nominal length is kept as it is. -/
theorem padSlice_of_length_eq (exact : d.length = len) : padSlice len d = some d := by
  rw [padSlice_of_le exact.le, exact, Nat.sub_self, List.replicate_zero, List.append_nil]

end

/-- `NodeId::from_slice` returns exactly on 20-byte slices, and keeps them as they are. -/
theorem NodeId.fromSlice_eq_some_iff {d : List UInt8} {z : NodeId}
    : NodeId.fromSlice d = some z ↔ d.length = NODE_ID_LEN ∧ z = ⟨d⟩ := by
  unfold NodeId.fromSlice
  split
  case isTrue exact =>
    exact ⟨fun built => ⟨exact, (Option.some.inj built).symm⟩, fun ⟨_, same⟩ => same ▸ rfl⟩
  case isFalse wrong => exact ⟨nofun, fun ⟨exact, _⟩ => absurd exact wrong⟩

-----------------------------------------------------------------------------------------
-- Parsing the text of a payload
-----------------------------------------------------------------------------------------

section
variable {α : Type} {fromSlice : List UInt8 → Option α} {s : String}

theorem fromStrWith_encode (fromSlice : List UInt8 → Option α) (d : List UInt8)
    : fromStrWith fromSlice (encodeCb58WithChecksum d) = (fromSlice d).map .ok := by
  simp [fromStrWith, decodeCb58WithChecksum_encode]

/-- A text is rejected exactly when it is no payload's text. -/
theorem fromStrWith_eq_error_iff
    : (∃ e, fromStrWith fromSlice s = some (.error e))
      ↔ ∀ d, s ≠ encodeCb58WithChecksum d := by
  unfold fromStrWith
  split
  case h_1 e decoded =>
    refine ⟨fun _ d text => ?_, fun _ => ⟨_, rfl⟩⟩
    rw [text, decodeCb58WithChecksum_encode] at decoded
    cases decoded
  case h_2 d decoded =>
    refine ⟨fun ⟨e, h⟩ => ?_, fun never => absurd (decodeCb58WithChecksum_eq_ok_iff.mp decoded)
      (never d)⟩
    cases built : fromSlice d <;> simp [built] at h

/-- A text is accepted exactly as the `from_slice` of its payload. -/
theorem fromStrWith_eq_ok_iff {x : α}
    : fromStrWith fromSlice s = some (.ok x)
      ↔ ∃ d, s = encodeCb58WithChecksum d ∧ fromSlice d = some x := by
  constructor
  · intro parsed
    unfold fromStrWith at parsed
    split at parsed
    case h_1 => cases parsed
    case h_2 d decoded =>
      obtain ⟨x', built, same⟩ := Option.map_eq_some'.mp parsed
      cases same
      exact ⟨d, decodeCb58WithChecksum_eq_ok_iff.mp decoded, built⟩
  · rintro ⟨d, rfl, built⟩
    simp [fromStrWith_encode, built]

/-- A parse panics exactly on the text of a payload that `from_slice` refuses. -/
theorem fromStrWith_eq_none_iff
    : fromStrWith fromSlice s = none
      ↔ ∃ d, s = encodeCb58WithChecksum d ∧ fromSlice d = none := by
  constructor
  · intro parsed
    unfold fromStrWith at parsed
    split at parsed
    case h_1 => cases parsed
    case h_2 d decoded =>
      exact ⟨d, decodeCb58WithChecksum_eq_ok_iff.mp decoded, Option.map_eq_none'.mp parsed⟩
  · rintro ⟨d, rfl, refused⟩
    simp [fromStrWith_encode, refused]

end

-----------------------------------------------------------------------------------------
-- Stripping the `NodeID-` prefix
-----------------------------------------------------------------------------------------

/-- The split after `n` bytes is into a front of `n` bytes in UTF-8 and the rest, and there is
none when no front of the characters takes exactly `n` bytes; by induction on the characters.
-/
theorem splitAtByte_eq_some_iff {chars front back : List Char} {n : Nat}
    : splitAtByte chars n = some (front, back)
      ↔ front ++ back = chars ∧ String.utf8Len front = n := by
  induction chars generalizing n front back with
  | nil => cases n <;> cases front <;> simp [splitAtByte, eq_comm]
  | cons c chars ih =>
      cases front with
      | nil =>
          cases n with
          | zero => simp [splitAtByte, eq_comm]
          | succ n =>
              simp only [splitAtByte, List.nil_append, String.utf8Len_nil]
              split <;> simp [Option.map_eq_some']
      | cons c' front =>
          have pos := Char.utf8Size_pos c'
          cases n with
          | zero =>
              simp [splitAtByte]
              omega
          | succ n =>
              simp only [splitAtByte, List.cons_append, List.cons.injEq, String.utf8Len_cons]
              split
              case isTrue fits =>
                simp only [Option.map_eq_some', Prod.mk.injEq, List.cons.injEq, Prod.exists]
                constructor
                · rintro ⟨f, b, split, ⟨rfl, rfl⟩, rfl⟩
                  obtain ⟨rfl, len⟩ := ih.mp split
                  exact ⟨⟨rfl, rfl⟩, by omega⟩
                · rintro ⟨⟨rfl, rest⟩, len⟩
                  exact ⟨front, back, ih.mpr ⟨rest, by omega⟩, ⟨rfl, rfl⟩, rfl⟩
              case isFalse tooLong =>
                simp only [reduceCtorEq, false_iff, not_and]
                rintro ⟨rfl, -⟩
                omega

/-- Characters of one byte each take as many bytes as there are of them. -/
theorem utf8Len_of_ascii {chars : List Char} (ascii : ∀ c ∈ chars, c.utf8Size = 1)
    : String.utf8Len chars = chars.length := by
  induction chars with
  | nil => rfl
  | cons c chars ih =>
      rw [String.utf8Len_cons, ih (fun c mem => ascii c (by simp [mem])), ascii c (by simp),
        List.length_cons]

/-- The split of a string whose first `n` characters are one byte each is after them. -/
theorem splitAtByte_of_ascii {chars : List Char} {n : Nat} (within : n ≤ chars.length)
    (ascii : ∀ c ∈ chars.take n, c.utf8Size = 1)
    : splitAtByte chars n = some (chars.take n, chars.drop n) :=
  splitAtByte_eq_some_iff.mpr
    ⟨List.take_append_drop n chars, by rw [utf8Len_of_ascii ascii, List.length_take_of_le within]⟩

theorem utf8ByteSize_NODE_ID_ENCODE_PREFIX : NODE_ID_ENCODE_PREFIX.utf8ByteSize = 7 := by decide

theorem ascii_NODE_ID_ENCODE_PREFIX : ∀ c ∈ NODE_ID_ENCODE_PREFIX.data, c.utf8Size = 1 := by
  decide

/-- The prefixed text loses exactly its prefix. -/
theorem stripNodeIdPrefix_prefix (t : String)
    : stripNodeIdPrefix (NODE_ID_ENCODE_PREFIX ++ t) = some t := by
  have length : NODE_ID_ENCODE_PREFIX.data.length = 7 := by decide
  have front : (NODE_ID_ENCODE_PREFIX.data ++ t.data).take 7 = NODE_ID_ENCODE_PREFIX.data := by
    rw [← length, List.take_left]
  rw [stripNodeIdPrefix, utf8ByteSize_NODE_ID_ENCODE_PREFIX, String.data_append,
    splitAtByte_of_ascii (by simp [length]) (front ▸ ascii_NODE_ID_ENCODE_PREFIX)]
  simp [front, ← length]

/-- A text over the Base58 alphabet of at least seven characters is left as it is: its
seventh character is not the prefix's `-`.
-/
theorem stripNodeIdPrefix_of_base58 {s : String} (long : 7 ≤ s.length)
    (base58 : ∀ c ∈ s.data, c ∈ Base58.ALPHABET) : stripNodeIdPrefix s = some s := by
  have ascii : ∀ c ∈ s.data.take 7, c.utf8Size = 1 := fun c mem =>
    Base58.utf8Size_of_mem_ALPHABET c (base58 c (List.mem_of_mem_take mem))
  rw [stripNodeIdPrefix, utf8ByteSize_NODE_ID_ENCODE_PREFIX, splitAtByte_of_ascii long ascii]
  have differs : String.mk (s.data.take 7) ≠ NODE_ID_ENCODE_PREFIX := by
    intro same
    have dash : '-' ∈ s.data.take 7 := by
      rw [show s.data.take 7 = NODE_ID_ENCODE_PREFIX.data from congrArg String.data same]
      decide
    exact absurd (base58 '-' (List.mem_of_mem_take dash)) (by decide)
  simp [differs]

/-- Stripping either removes the prefix or keeps the whole string. -/
theorem stripNodeIdPrefix_eq_some {s t : String} (stripped : stripNodeIdPrefix s = some t)
    : s = NODE_ID_ENCODE_PREFIX ++ t ∨ t = s := by
  obtain ⟨⟨front, back⟩, split, rfl⟩ := Option.map_eq_some'.mp stripped
  dsimp only
  split
  case isTrue prefixed =>
    left
    rw [String.ext_iff, String.data_append, ← prefixed, (splitAtByte_eq_some_iff.mp split).1]
  case isFalse => exact Or.inr rfl

/-- `strip_node_id_prefix` on every string: it panics exactly when no front of the string
takes seven bytes in UTF-8, that is when the string is shorter or its seventh byte ends inside
a character; otherwise it drops those seven bytes when they are `NodeID-` and keeps the string
when they are not.
-/
theorem stripNodeIdPrefix_outcomes (addr : String)
    : (stripNodeIdPrefix addr = none
        ↔ ∀ front back, front ++ back = addr.data → String.utf8Len front ≠ 7)
      ∧ ∀ front back, front ++ back = addr.data → String.utf8Len front = 7 →
          stripNodeIdPrefix addr
            = some (if String.mk front = NODE_ID_ENCODE_PREFIX then String.mk back else addr) := by
  rw [stripNodeIdPrefix, utf8ByteSize_NODE_ID_ENCODE_PREFIX]
  refine ⟨?_, fun front back split len => ?_⟩
  · rw [Option.map_eq_none', Option.eq_none_iff_forall_not_mem]
    constructor
    · intro never front back split len
      exact never (front, back) (splitAtByte_eq_some_iff.mpr ⟨split, len⟩)
    · rintro never ⟨front, back⟩ found
      obtain ⟨split, len⟩ := splitAtByte_eq_some_iff.mp (Option.mem_def.mp found)
      exact never front back split len
  · rw [splitAtByte_eq_some_iff.mpr ⟨split, len⟩, Option.map_some']

theorem stripNodeIdPrefix_outcomes_prefixed
    : "NodeID-".data ++ "abc".data = "NodeID-abc".data ∧ String.utf8Len "NodeID-".data = 7
      ∧ stripNodeIdPrefix "NodeID-abc"
        = some (if String.mk "NodeID-".data = NODE_ID_ENCODE_PREFIX then String.mk "abc".data
          else "NodeID-abc") :=
  have split : "NodeID-".data ++ "abc".data = "NodeID-abc".data := by decide
  have len : String.utf8Len "NodeID-".data = 7 := by decide
  ⟨split, len, (stripNodeIdPrefix_outcomes "NodeID-abc").2 _ _ split len⟩

/-- The bare text of a payload of at least three bytes is left as it is. -/
theorem stripNodeIdPrefix_encodeCb58WithChecksum {d : List UInt8} (long : 3 ≤ d.length)
    : stripNodeIdPrefix (encodeCb58WithChecksum d) = some (encodeCb58WithChecksum d) := by
  have length := length_encodeCb58WithChecksum d
  exact stripNodeIdPrefix_of_base58 (by unfold CHECKSUM_LENGTH at length; omega)
    (fun _ => mem_ALPHABET_of_mem_encodeCb58WithChecksum)

-----------------------------------------------------------------------------------------
-- Round trip of the text form
-----------------------------------------------------------------------------------------

theorem NodeId.shortId_of_length {z : NodeId} (wellFormed : z.d.length = NODE_ID_LEN)
    : z.shortId = some ⟨z.d⟩ := by
  simp [NodeId.shortId, ShortId.fromSlice,
    padSlice_of_length_eq (wellFormed.trans NODE_ID_LEN_eq_SHORT_ID_LEN)]

theorem Id.fromStr_toString {x : Id} (wellFormed : x.d.length = ID_LEN)
    : Id.fromStr x.toString = some (.ok x) := by
  simp [Id.fromStr, Id.toString, fromStrWith_encode, Id.fromSlice, padSlice_of_length_eq wellFormed]

theorem ShortId.fromStr_toString {y : ShortId} (wellFormed : y.d.length = SHORT_ID_LEN)
    : ShortId.fromStr y.toString = some (.ok y) := by
  simp [ShortId.fromStr, ShortId.toString, fromStrWith_encode, ShortId.fromSlice,
    padSlice_of_length_eq wellFormed]

/-- The cb58 text of a well-formed `NodeId`'s bytes parses back to it. -/
theorem NodeId.fromStrWith_encodeCb58WithChecksum {z : NodeId}
    (wellFormed : z.d.length = NODE_ID_LEN)
    : fromStrWith NodeId.fromSlice (encodeCb58WithChecksum z.d) = some (.ok z) := by
  simp [fromStrWith_encode, NodeId.fromSlice, wellFormed.trans NODE_ID_LEN_eq_SHORT_ID_LEN]

theorem NodeId.fromStr_toString {z : NodeId} (wellFormed : z.d.length = NODE_ID_LEN)
    : NodeId.fromStr z.toString = some (.ok z) := by
  rw [NodeId.fromStr, NodeId.toString, stripNodeIdPrefix_prefix, Option.some_bind,
    NodeId.fromStrWith_encodeCb58WithChecksum wellFormed]

/-- The bare cb58 text of a well-formed `NodeId`'s bytes, which is its `ShortId`'s text, parses
back to it.
-/
theorem NodeId.fromStr_bare {z : NodeId} (wellFormed : z.d.length = NODE_ID_LEN)
    : NodeId.fromStr (encodeCb58WithChecksum z.d) = some (.ok z) := by
  rw [NodeId.fromStr, stripNodeIdPrefix_encodeCb58WithChecksum (by rw [wellFormed]; decide),
    Option.some_bind, NodeId.fromStrWith_encodeCb58WithChecksum wellFormed]

/-- The text of every well-formed identifier parses back to it, and the bare text of a
`NodeId` is neither shortened by the prefix stripping nor makes it panic.
-/
theorem text_round_trip
    : (∀ x : Id, x.d.length = ID_LEN → Id.fromStr x.toString = some (.ok x))
      ∧ (∀ y : ShortId, y.d.length = SHORT_ID_LEN → ShortId.fromStr y.toString = some (.ok y))
      ∧ ∀ z : NodeId, z.d.length = NODE_ID_LEN →
          NodeId.fromStr z.toString = some (.ok z)
          ∧ stripNodeIdPrefix (encodeCb58WithChecksum z.d) = some (encodeCb58WithChecksum z.d)
          ∧ ∃ y, z.shortId = some y ∧ NodeId.fromStr y.toString = some (.ok z) := by
  refine ⟨fun _ => Id.fromStr_toString, fun _ => ShortId.fromStr_toString,
    fun z wellFormed => ?_⟩
  have bare := stripNodeIdPrefix_encodeCb58WithChecksum (d := z.d) (by rw [wellFormed]; decide)
  refine ⟨NodeId.fromStr_toString wellFormed, bare, ⟨z.d⟩, NodeId.shortId_of_length wellFormed, ?_⟩
  rw [NodeId.fromStr, ShortId.toString, bare, Option.some_bind,
    NodeId.fromStrWith_encodeCb58WithChecksum wellFormed]

theorem text_round_trip_empty
    : Id.fromStr Id.empty.toString = some (.ok Id.empty)
      ∧ ShortId.fromStr ShortId.empty.toString = some (.ok ShortId.empty)
      ∧ NodeId.fromStr NodeId.empty.toString = some (.ok NodeId.empty) :=
  ⟨text_round_trip.1 _ (List.length_replicate _ _),
    text_round_trip.2.1 _ (List.length_replicate _ _),
    (text_round_trip.2.2 _ (List.length_replicate _ _)).1⟩

-----------------------------------------------------------------------------------------
-- Every string, by the payload of its text
-----------------------------------------------------------------------------------------

/-- How a `from_str` that calls `from_slice` at nominal length `len` treats every string:
it rejects exactly the texts of no payload, panics exactly on the texts of longer payloads,
zero-pads shorter payloads, and gives back the text it read exactly for payloads of the
nominal length.
-/
structure ParsesPadded {α : Type} (len : Nat) (bytes : α → List UInt8) (text : α → String)
    (fromStr : String → Option (Except Error α)) : Prop where
  rejects : ∀ s, (∃ e, fromStr s = some (.error e)) ↔ ∀ p, s ≠ encodeCb58WithChecksum p
  panics : ∀ s, fromStr s = none ↔ ∃ p, len < p.length ∧ s = encodeCb58WithChecksum p
  pads : ∀ p, p.length ≤ len →
    ∃ x, fromStr (encodeCb58WithChecksum p) = some (.ok x)
      ∧ bytes x = p ++ List.replicate (len - p.length) 0
  canonical : ∀ s, (∃ x, fromStr s = some (.ok x) ∧ text x = s)
    ↔ ∃ p, p.length = len ∧ s = encodeCb58WithChecksum p

/-- Parsing through `padSlice` satisfies `ParsesPadded` for any wrapper of the bytes;
witness: the three outcomes of `fromStrWith` and the injectivity of the codec.
-/
theorem fromStrWith_padSlice {α : Type} (len : Nat) (mk : List UInt8 → α)
    (bytes : α → List UInt8) (text : α → String) (unwrap : ∀ d, bytes (mk d) = d)
    (encoded : ∀ x, text x = encodeCb58WithChecksum (bytes x))
    : ParsesPadded len bytes text (fromStrWith fun d => (padSlice len d).map mk) where
  rejects _ := fromStrWith_eq_error_iff
  panics _ := by simp [fromStrWith_eq_none_iff, padSlice_eq_none_iff, and_comm]
  pads p within := ⟨_, by simp [fromStrWith_encode, padSlice_of_le within], unwrap _⟩
  canonical s := by
    constructor
    · rintro ⟨x, parsed, rfl⟩
      obtain ⟨d, -, padded⟩ := fromStrWith_eq_ok_iff.mp parsed
      obtain ⟨p, pad, rfl⟩ := Option.map_eq_some'.mp padded
      exact ⟨p, length_of_padSlice_eq_some pad, by rw [encoded, unwrap]⟩
    · rintro ⟨p, exact, rfl⟩
      exact ⟨mk p, by simp [fromStrWith_encode, padSlice_of_length_eq exact], by
        rw [encoded, unwrap]⟩

/-- `Id::from_str` and `ShortId::from_str` on every string: `Err` exactly off the cb58 texts,
a panic exactly on the texts of payloads longer than the nominal length, zero padding for
shorter ones, and the text read back exactly at the nominal length.
-/
theorem fromStr_parsesPadded
    : ParsesPadded ID_LEN Id.d Id.toString Id.fromStr
      ∧ ParsesPadded SHORT_ID_LEN ShortId.d ShortId.toString ShortId.fromStr :=
  ⟨fromStrWith_padSlice _ _ _ _ (fun _ => rfl) (fun _ => rfl),
    fromStrWith_padSlice _ _ _ _ (fun _ => rfl) (fun _ => rfl)⟩

theorem fromStr_pads_short_payload
    : ([1, 2, 3] : List UInt8).length ≤ ID_LEN
      ∧ ∃ x, Id.fromStr (encodeCb58WithChecksum [1, 2, 3]) = some (.ok x)
        ∧ x.d = [1, 2, 3] ++ List.replicate (ID_LEN - ([1, 2, 3] : List UInt8).length) 0 :=
  ⟨by decide, fromStr_parsesPadded.1.pads [1, 2, 3] (by decide)⟩

/-- The text of the empty payload parses to the zero `Id`, whose text is another one; the
text of a 33-byte payload panics in `from_slice`.
-/
theorem id_fromStr_short_and_long_payloads
    : Id.fromStr (encodeCb58WithChecksum []) = some (.ok Id.empty)
      ∧ Id.empty.toString ≠ encodeCb58WithChecksum []
      ∧ Id.fromStr (encodeCb58WithChecksum (List.replicate 33 0)) = none := by
  refine ⟨?_, fun same => ?_, ?_⟩
  · simp [Id.fromStr, fromStrWith_encode, Id.fromSlice, padSlice_of_le, Id.empty]
  · cases encodeCb58WithChecksum_inj same
  · simp [Id.fromStr, fromStrWith_encode, Id.fromSlice, padSlice_eq_none_iff.mpr, ID_LEN]

/-- `NodeId::from_str` returns `Ok(z)` only for the two texts of `z`, which has 20 bytes;
after `strip_node_id_prefix` returns, it rejects exactly the non-cb58 texts and panics
exactly on the texts of payloads that are not 20 bytes.
-/
theorem nodeId_fromStr_canonical
    : (∀ s z, NodeId.fromStr s = some (.ok z) →
        z.d.length = NODE_ID_LEN
        ∧ (s = z.toString ∨ ∃ y, z.shortId = some y ∧ s = y.toString))
      ∧ ∀ s t, stripNodeIdPrefix s = some t →
          ((∃ e, NodeId.fromStr s = some (.error e)) ↔ ∀ p, t ≠ encodeCb58WithChecksum p)
          ∧ (NodeId.fromStr s = none
              ↔ ∃ p, p.length ≠ NODE_ID_LEN ∧ t = encodeCb58WithChecksum p) := by
  refine ⟨fun s z parsed => ?_, fun s t stripped => ?_⟩
  · obtain ⟨t, stripped, parsed⟩ := Option.bind_eq_some.mp parsed
    obtain ⟨d, rfl, found⟩ := fromStrWith_eq_ok_iff.mp parsed
    obtain ⟨wellFormed, rfl⟩ := NodeId.fromSlice_eq_some_iff.mp found
    refine ⟨wellFormed, ?_⟩
    rcases stripNodeIdPrefix_eq_some stripped with prefixed | bare
    · exact Or.inl prefixed
    · exact Or.inr ⟨⟨d⟩, NodeId.shortId_of_length wellFormed, bare.symm⟩
  · rw [NodeId.fromStr, stripped, Option.some_bind]
    refine ⟨fromStrWith_eq_error_iff, ?_⟩
    rw [fromStrWith_eq_none_iff]
    simp [NodeId.fromSlice, NODE_ID_LEN, SHORT_ID_LEN, and_comm]

theorem nodeId_fromStr_canonical_bare
    : NodeId.fromStr (encodeCb58WithChecksum NodeId.empty.d) = some (.ok NodeId.empty)
      ∧ NodeId.empty.d.length = NODE_ID_LEN
      ∧ (encodeCb58WithChecksum NodeId.empty.d = NodeId.empty.toString
        ∨ ∃ y, NodeId.empty.shortId = some y ∧ encodeCb58WithChecksum NodeId.empty.d = y.toString) :=
  have parsed := NodeId.fromStr_bare (z := NodeId.empty) (List.length_replicate _ _)
  ⟨parsed, nodeId_fromStr_canonical.1 _ _ parsed⟩

/-- The prefixed text of the empty payload reaches `from_slice`'s `assert_eq!` and panics,
and so does the empty string, in `strip_node_id_prefix`.
-/
theorem nodeId_fromStr_panics
    : NodeId.fromStr (NODE_ID_ENCODE_PREFIX ++ encodeCb58WithChecksum []) = none
      ∧ NodeId.fromStr "" = none := by
  refine ⟨?_, by simp [NodeId.fromStr, stripNodeIdPrefix, splitAtByte]⟩
  rw [NodeId.fromStr, stripNodeIdPrefix_prefix, Option.some_bind, fromStrWith_encode]
  rfl

end AvalancheTypes
