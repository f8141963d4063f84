import Mathlib.Data.List.GetD
import AvalancheTypes.Bytes.BigEndian

/-! Base58 over the Bitcoin alphabet: one `1` for each leading zero byte, then the big-endian
value of the bytes in base 58. Encoding and decoding are inverse bijections between byte
strings and texts over the alphabet.
-/

namespace AvalancheTypes.Formatting.Base58

/-- The Bitcoin alphabet: the digits and letters without `0`, `O`, `I` and `l`. -/
def ALPHABET : List Char :=
  "123456789ABCDEFGHJKLMNPQRSTUVWXYZabcdefghijkmnopqrstuvwxyz".data

/-- The character of the digit `d`. -/
def digitChar (d : Nat) : Char := ALPHABET.getD d '1'

/-- The digit of a character of the alphabet. -/
def charDigit (c : Char) : Option Nat :=
  if c ∈ ALPHABET then some (ALPHABET.indexOf c) else none

/-- The digits of the text of `bytes`: a zero digit for each leading zero byte, then the
shortest base-58 digits of their value.
-/
def encodeDigits (bytes : List UInt8) : List Nat :=
  List.replicate (bytes.takeWhile (· == 0)).length 0 ++ toDigitsBE 58 (bytesToNat bytes)

/-- Modelled from the spec: the Base58 encoder the cb58 codec calls is not under src/. -/
def encode (bytes : List UInt8) : String :=
  ⟨(encodeDigits bytes).map digitChar⟩

inductive DecodeError where
  | invalidCharacter (character : Char)
  deriving DecidableEq, Repr

/-- The digits of a text, failing at the first character outside the alphabet. -/
def decodeDigits : List Char → Except DecodeError (List Nat)
  | [] => .ok []
  | c :: cs =>
      match charDigit c with
      | none => .error (.invalidCharacter c)
      | some d => (decodeDigits cs).map (d :: ·)

/-- The bytes of base-58 digits: a zero byte for each leading zero digit, then the shortest
bytes of their value.
-/
def decodeFromDigits (digits : List Nat) : List UInt8 :=
  List.replicate (digits.takeWhile (· == 0)).length 0 ++ natToBytes (ofDigitsBE 58 digits)

/-- Modelled from the spec: the Base58 decoder the cb58 codec calls is not under src/. -/
def decode (text : String) : Except DecodeError (List UInt8) :=
  (decodeDigits text.data).map decodeFromDigits

-----------------------------------------------------------------------------------------
-- The alphabet
-----------------------------------------------------------------------------------------

theorem length_ALPHABET : ALPHABET.length = 58 := by decide

/-- The characters of the alphabet are distinct: their code points are. -/
theorem nodup_ALPHABET : ALPHABET.Nodup := List.Nodup.of_map Char.toNat (by decide)

/-- Every character of the alphabet is one UTF-8 byte. -/
theorem utf8Size_of_mem_ALPHABET : ∀ c ∈ ALPHABET, c.utf8Size = 1 := by decide

theorem digitChar_mem (d : Nat) : digitChar d ∈ ALPHABET := by
  rw [digitChar, List.getD_eq_getElem?_getD]
  cases h : ALPHABET[d]? with
  | none => decide
  | some c => exact List.getElem?_mem h

theorem charDigit_digitChar {d : Nat} (bound : d < 58) : charDigit (digitChar d) = some d := by
  rw [← length_ALPHABET] at bound
  rw [digitChar, List.getD_eq_getElem _ _ bound, charDigit, if_pos (List.getElem_mem bound),
    List.indexOf_getElem nodup_ALPHABET]

theorem digitChar_of_charDigit {c : Char} {d : Nat} (found : charDigit c = some d)
    : digitChar d = c ∧ d < 58 := by
  unfold charDigit at found
  split at found
  case isTrue mem =>
    cases found
    have bound := List.indexOf_lt_length.mpr mem
    exact ⟨by rw [digitChar, List.getD_eq_getElem _ _ bound, List.getElem_indexOf],
      length_ALPHABET ▸ bound⟩
  case isFalse => cases found

-----------------------------------------------------------------------------------------
-- Digits
-----------------------------------------------------------------------------------------

/-- Texts of alphabet characters decode to their digits, by induction on the digits. -/
theorem decodeDigits_map_digitChar {digits : List Nat} (bounded : ∀ d ∈ digits, d < 58)
    : decodeDigits (digits.map digitChar) = .ok digits := by
  induction digits with
  | nil => rfl
  | cons d digits ih =>
      simp only [List.map_cons, decodeDigits, charDigit_digitChar (bounded d (by simp)),
        ih (fun e mem => bounded e (by simp [mem]))]
      rfl

/-- A text that decodes is the characters of its digits, by induction on the text. -/
theorem decodeDigits_eq_ok {chars : List Char} {digits : List Nat}
    (decoded : decodeDigits chars = .ok digits)
    : chars = digits.map digitChar ∧ ∀ d ∈ digits, d < 58 := by
  induction chars generalizing digits with
  | nil => cases decoded; simp
  | cons c chars ih =>
      unfold decodeDigits at decoded
      split at decoded
      case h_1 => cases decoded
      case h_2 d found =>
        cases rest : decodeDigits chars with
        | error e => rw [rest] at decoded; cases decoded
        | ok tail =>
            rw [rest] at decoded
            cases decoded
            obtain ⟨char, bound⟩ := digitChar_of_charDigit found
            obtain ⟨chars, bounded⟩ := ih rest
            exact ⟨by simp [char, chars], by simpa [bound] using bounded⟩

/-- Decoding fails at the first character outside the alphabet, whatever follows it; by
induction on the characters before it.
-/
theorem decodeDigits_append_of_not_mem {front rest : List Char} {c : Char}
    (inAlphabet : ∀ a ∈ front, a ∈ ALPHABET) (outside : c ∉ ALPHABET)
    : decodeDigits (front ++ c :: rest) = .error (.invalidCharacter c) := by
  induction front with
  | nil => simp [decodeDigits, charDigit, outside]
  | cons a front ih =>
      have digit : charDigit a = some (ALPHABET.indexOf a) := if_pos (inAlphabet a (by simp))
      rw [List.cons_append, decodeDigits, digit, ih fun b mem => inAlphabet b (by simp [mem])]
      rfl

/-- Every encoded digit is below 58. -/
theorem lt_of_mem_encodeDigits {bytes : List UInt8} {d : Nat} (mem : d ∈ encodeDigits bytes)
    : d < 58 := by
  rcases List.mem_append.mp mem with zero | digit
  · rw [List.eq_of_mem_replicate zero]
    decide
  · exact lt_of_mem_toDigitsBE (by decide) digit

/-- Decoding the digits of a byte string gives it back; witness: the encoded digits are
the leading zeros followed by digits that do not start with zero.
-/
theorem decodeFromDigits_encodeDigits (bytes : List UInt8)
    : decodeFromDigits (encodeDigits bytes) = bytes := by
  obtain ⟨lead, -⟩ := takeWhile_replicate_append (bytes.takeWhile (· == 0)).length
    (toDigitsBE_head? 58 (bytesToNat bytes))
  rw [decodeFromDigits, encodeDigits, lead, List.length_replicate, ofDigitsBE_replicate_append,
    ofDigitsBE_toDigitsBE, natToBytes_bytesToNat, ← takeWhile_beq_eq_replicate,
    List.takeWhile_append_dropWhile]

/-- Encoding the bytes of base-58 digits gives them back; witness: the decoded bytes are the
leading zeros followed by bytes that do not start with zero.
-/
theorem encodeDigits_decodeFromDigits {digits : List Nat} (bounded : ∀ d ∈ digits, d < 58)
    : encodeDigits (decodeFromDigits digits) = digits := by
  obtain ⟨lead, -⟩ := takeWhile_replicate_append (digits.takeWhile (· == 0)).length
    (natToBytes_head? (ofDigitsBE 58 digits))
  rw [encodeDigits, decodeFromDigits, lead, List.length_replicate, bytesToNat_replicate_append,
    bytesToNat_natToBytes, toDigitsBE_ofDigitsBE (by decide) bounded,
    ← takeWhile_beq_eq_replicate, List.takeWhile_append_dropWhile]

-----------------------------------------------------------------------------------------
-- The codec
-----------------------------------------------------------------------------------------

theorem decode_encode (bytes : List UInt8) : decode (encode bytes) = .ok bytes := by
  rw [decode, encode, decodeDigits_map_digitChar (fun _ => lt_of_mem_encodeDigits)]
  exact congrArg Except.ok (decodeFromDigits_encodeDigits bytes)

/-- A text that decodes is the encoding of what it decodes to: the text is canonical. -/
theorem encode_of_decode {text : String} {bytes : List UInt8}
    (decoded : decode text = .ok bytes) : encode bytes = text := by
  unfold decode at decoded
  cases digits : decodeDigits text.data with
  | error e => rw [digits] at decoded; cases decoded
  | ok digits' =>
      rw [digits] at decoded
      cases decoded
      obtain ⟨chars, bounded⟩ := decodeDigits_eq_ok digits
      rw [encode, encodeDigits_decodeFromDigits bounded, ← chars]

/-- Base58 is a bijection between byte strings and the texts that decode. -/
theorem decode_eq_ok_iff {text : String} {bytes : List UInt8}
    : decode text = .ok bytes ↔ text = encode bytes :=
  ⟨fun decoded => (encode_of_decode decoded).symm, fun text => text ▸ decode_encode bytes⟩

/-- Every character of an encoding is in the alphabet. -/
theorem mem_ALPHABET_of_mem_encode {bytes : List UInt8} {c : Char}
    (mem : c ∈ (encode bytes).data) : c ∈ ALPHABET := by
  obtain ⟨d, -, rfl⟩ := List.mem_map.mp mem
  exact digitChar_mem d

/-- A text is at least as long as the bytes it encodes: each leading zero byte gives one
character and the value needs no fewer base-58 digits than base-256 ones.
-/
theorem length_le_length_encode (bytes : List UInt8)
    : bytes.length ≤ (encode bytes).length := by
  have split := congrArg List.length (List.takeWhile_append_dropWhile (· == 0) bytes)
  rw [← natToBytes_bytesToNat, List.length_append, natToBytes, List.length_map] at split
  have fewer := length_toDigitsBE_le (by decide : 1 < 58) (by decide : 58 ≤ 256) (bytesToNat bytes)
  show _ ≤ ((encodeDigits bytes).map digitChar).length
  simp only [List.length_map, encodeDigits, List.length_append, List.length_replicate]
  omega

end AvalancheTypes.Formatting.Base58
