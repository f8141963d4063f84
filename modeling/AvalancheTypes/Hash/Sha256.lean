import AvalancheTypes.Bytes.BigEndian

/-! SHA-256 as FIPS 180-4 defines it. The cb58 checksum and the prefix derivation hash with it;
their proofs use only the width of its digest.
-/

namespace AvalancheTypes.Hash

/-- The sixty-four round constants. -/
def K : List UInt32 :=
  [0x428a2f98, 0x71374491, 0xb5c0fbcf, 0xe9b5dba5, 0x3956c25b, 0x59f111f1, 0x923f82a4, 0xab1c5ed5,
   0xd807aa98, 0x12835b01, 0x243185be, 0x550c7dc3, 0x72be5d74, 0x80deb1fe, 0x9bdc06a7, 0xc19bf174,
   0xe49b69c1, 0xefbe4786, 0x0fc19dc6, 0x240ca1cc, 0x2de92c6f, 0x4a7484aa, 0x5cb0a9dc, 0x76f988da,
   0x983e5152, 0xa831c66d, 0xb00327c8, 0xbf597fc7, 0xc6e00bf3, 0xd5a79147, 0x06ca6351, 0x14292967,
   0x27b70a85, 0x2e1b2138, 0x4d2c6dfc, 0x53380d13, 0x650a7354, 0x766a0abb, 0x81c2c92e, 0x92722c85,
   0xa2bfe8a1, 0xa81a664b, 0xc24b8b70, 0xc76c51a3, 0xd192e819, 0xd6990624, 0xf40e3585, 0x106aa070,
   0x19a4c116, 0x1e376c08, 0x2748774c, 0x34b0bcb5, 0x391c0cb3, 0x4ed8aa4a, 0x5b9cca4f, 0x682e6ff3,
   0x748f82ee, 0x78a5636f, 0x84c87814, 0x8cc70208, 0x90befffa, 0xa4506ceb, 0xbef9a3f7, 0xc67178f2]

/-- The eight working variables, also the chaining value between blocks. -/
structure State where
  a : UInt32
  b : UInt32
  c : UInt32
  d : UInt32
  e : UInt32
  f : UInt32
  g : UInt32
  h : UInt32

/-- The initial hash value. -/
def H0 : State :=
  ⟨0x6a09e667, 0xbb67ae85, 0x3c6ef372, 0xa54ff53a, 0x510e527f, 0x9b05688c, 0x1f83d9ab, 0x5be0cd19⟩

def rotr (x n : UInt32) : UInt32 := (x >>> n) ||| (x <<< (32 - n))

def bigSigma0 (x : UInt32) : UInt32 := rotr x 2 ^^^ rotr x 13 ^^^ rotr x 22

def bigSigma1 (x : UInt32) : UInt32 := rotr x 6 ^^^ rotr x 11 ^^^ rotr x 25

def smallSigma0 (x : UInt32) : UInt32 := rotr x 7 ^^^ rotr x 18 ^^^ (x >>> 3)

def smallSigma1 (x : UInt32) : UInt32 := rotr x 17 ^^^ rotr x 19 ^^^ (x >>> 10)

def ch (x y z : UInt32) : UInt32 := (x &&& y) ^^^ (~~~x &&& z)

def maj (x y z : UInt32) : UInt32 := (x &&& y) ^^^ (x &&& z) ^^^ (y &&& z)

/-- The message, a `0x80` byte, zeros up to 56 modulo 64, and the length in bits as eight
big-endian bytes.
-/
def pad (message : List UInt8) : List UInt8 :=
  message ++ [0x80] ++ List.replicate ((119 - message.length % 64) % 64) 0
    ++ beBytes 8 (8 * message.length)

/-- The consecutive 64-byte blocks of a padded message. -/
def blocks : Nat → List UInt8 → List (List UInt8)
  | 0, _ => []
  | count + 1, bytes => bytes.take 64 :: blocks count (bytes.drop 64)

/-- Big-endian 32-bit words of a block. -/
def words : List UInt8 → List UInt32
  | b0 :: b1 :: b2 :: b3 :: rest =>
      ((b0.toUInt32 <<< 24) ||| (b1.toUInt32 <<< 16) ||| (b2.toUInt32 <<< 8) ||| b3.toUInt32)
        :: words rest
  | _ => []

/-- The message schedule: the sixteen words of the block, extended to sixty-four. -/
def schedule (block : List UInt8) : List UInt32 :=
  (List.range 48).foldl
    (fun w t => w ++ [smallSigma1 (w.getD (t + 14) 0) + w.getD (t + 9) 0
      + smallSigma0 (w.getD (t + 1) 0) + w.getD t 0])
    (words block)

/-- One round of the compression function. -/
def round (s : State) (k w : UInt32) : State :=
  let t1 := s.h + bigSigma1 s.e + ch s.e s.f s.g + k + w
  let t2 := bigSigma0 s.a + maj s.a s.b s.c
  ⟨t1 + t2, s.a, s.b, s.c, s.d + t1, s.e, s.f, s.g⟩

/-- The compression of one block into the chaining value. -/
def compress (hash : State) (block : List UInt8) : State :=
  let s := (K.zip (schedule block)).foldl (fun s kw => round s kw.1 kw.2) hash
  ⟨hash.a + s.a, hash.b + s.b, hash.c + s.c, hash.d + s.d,
   hash.e + s.e, hash.f + s.f, hash.g + s.g, hash.h + s.h⟩

/-- The digest: the eight chaining words, each as four big-endian bytes. -/
def State.digest (s : State) : List UInt8 :=
  [s.a, s.b, s.c, s.d, s.e, s.f, s.g, s.h].flatMap (fun w => beBytes 4 w.toNat)

/-- Modelled from the spec: `utils::hash::compute_sha256` is not under src/; it is SHA-256. -/
def computeSha256 (message : List UInt8) : List UInt8 :=
  let padded := pad message
  ((blocks (padded.length / 64) padded).foldl compress H0).digest

/-- Every digest has 32 bytes. -/
@[simp]
theorem length_computeSha256 (message : List UInt8) : (computeSha256 message).length = 32 := by
  simp [computeSha256, State.digest]

end AvalancheTypes.Hash
