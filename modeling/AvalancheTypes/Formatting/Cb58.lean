import AvalancheTypes.Formatting.Base58
import AvalancheTypes.Hash.Sha256

/-! The cb58 text form: Base58 of the payload followed by a four-byte SHA-256 checksum.
Decoding succeeds on exactly the encodings, so every payload has one text and every text that
decodes is the text of what it decodes to.
-/

namespace AvalancheTypes.Formatting

def CHECKSUM_LENGTH : Nat := 4

/-- The checksum of spec section 4.2, the first four bytes of the payload's SHA-256 digest.
The vectors of `test_id` are those of the last four; no theorem here depends on which four.
-/
def checksum (d : List UInt8) : List UInt8 :=
  (Hash.computeSha256 d).take CHECKSUM_LENGTH

/-- Modelled from the spec: `formatting::encode_cb58_with_checksum` is not under src/; it is
Base58 of the payload followed by its checksum.
-/
def encodeCb58WithChecksum (d : List UInt8) : String :=
  Base58.encode (d ++ checksum d)

inductive DecodeError where
  | base58 (cause : Base58.DecodeError)
  | missingChecksum
  | checksumMismatch
  deriving DecidableEq, Repr

/-- Modelled from the spec: `formatting::decode_cb58_with_checksum` is not under src/.
Base58-decode, split off the last four bytes as the supplied checksum, and fail unless the
checksum of the rest equals them; a text of fewer than four bytes has no checksum to split off.
-/
def decodeCb58WithChecksum (s : String) : Except DecodeError (List UInt8) :=
  match Base58.decode s with
  | .error e => .error (.base58 e)
  | .ok decoded =>
      if decoded.length < CHECKSUM_LENGTH then .error .missingChecksum
      else
        let orig := decoded.take (decoded.length - CHECKSUM_LENGTH)
        if checksum orig = decoded.drop (decoded.length - CHECKSUM_LENGTH) then .ok orig
        else .error .checksumMismatch

@[simp]
theorem length_checksum (d : List UInt8) : (checksum d).length = CHECKSUM_LENGTH := by
  simp [checksum, CHECKSUM_LENGTH]

-----------------------------------------------------------------------------------------
-- The codec is a bijection onto the texts that decode
-----------------------------------------------------------------------------------------

theorem decodeCb58WithChecksum_encode (d : List UInt8)
    : decodeCb58WithChecksum (encodeCb58WithChecksum d) = .ok d := by
  have split : (d ++ checksum d).length - CHECKSUM_LENGTH = d.length := by simp
  simp [decodeCb58WithChecksum, encodeCb58WithChecksum, Base58.decode_encode, split]

/-- A text that decodes is the encoding of its payload; witness: Base58 decoding is
canonical, and the decoded bytes are the payload followed by its checksum.
-/
theorem encodeCb58WithChecksum_of_decode {s : String} {d : List UInt8}
    (decoded : decodeCb58WithChecksum s = .ok d) : encodeCb58WithChecksum d = s := by
  unfold decodeCb58WithChecksum at decoded
  split at decoded
  case h_1 => cases decoded
  case h_2 bytes base58 =>
    split at decoded
    case isTrue => cases decoded
    case isFalse =>
      dsimp only at decoded
      split at decoded
      case isTrue valid =>
        cases decoded
        rw [encodeCb58WithChecksum, valid, List.take_append_drop,
          Base58.encode_of_decode base58]
      case isFalse => cases decoded

/-- The texts that decode are exactly the encodings: one text for each payload. -/
theorem decodeCb58WithChecksum_eq_ok_iff {s : String} {d : List UInt8}
    : decodeCb58WithChecksum s = .ok d ↔ s = encodeCb58WithChecksum d :=
  ⟨fun decoded => (encodeCb58WithChecksum_of_decode decoded).symm,
    fun text => text ▸ decodeCb58WithChecksum_encode d⟩

theorem encodeCb58WithChecksum_inj {d₁ d₂ : List UInt8}
    (same : encodeCb58WithChecksum d₁ = encodeCb58WithChecksum d₂) : d₁ = d₂ := by
  have decoded := decodeCb58WithChecksum_encode d₁
  rwa [same, decodeCb58WithChecksum_encode, Except.ok.injEq, eq_comm] at decoded

/-- The text of a payload is at least four characters longer than the payload. -/
theorem length_encodeCb58WithChecksum (d : List UInt8)
    : d.length + CHECKSUM_LENGTH ≤ (encodeCb58WithChecksum d).length := by
  simpa using Base58.length_le_length_encode (d ++ checksum d)

theorem mem_ALPHABET_of_mem_encodeCb58WithChecksum {d : List UInt8} {c : Char}
    (mem : c ∈ (encodeCb58WithChecksum d).data) : c ∈ Base58.ALPHABET :=
  Base58.mem_ALPHABET_of_mem_encode mem

end AvalancheTypes.Formatting
