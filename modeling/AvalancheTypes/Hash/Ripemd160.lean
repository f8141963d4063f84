import AvalancheTypes.Hash.Sha256

/-! RIPEMD-160 as its designers define it: two parallel lines of eighty steps over
little-endian words. With SHA-256 it gives the short address of a certificate; the proofs use
only the width of its digest.
-/

namespace AvalancheTypes.Hash

namespace Ripemd160

/-- The chaining value: five words. -/
structure State where
  h0 : UInt32
  h1 : UInt32
  h2 : UInt32
  h3 : UInt32
  h4 : UInt32

/-- The initial chaining value. -/
def H0 : State := ⟨0x67452301, 0xEFCDAB89, 0x98BADCFE, 0x10325476, 0xC3D2E1F0⟩

/-- The working variables of one line. -/
structure Line where
  a : UInt32
  b : UInt32
  c : UInt32
  d : UInt32
  e : UInt32

def rotl (x n : UInt32) : UInt32 := (x <<< n) ||| (x >>> (32 - n))

/-- The five nonlinear functions, one for each round of sixteen steps. -/
def f (round : Nat) (x y z : UInt32) : UInt32 :=
  match round with
  | 0 => x ^^^ y ^^^ z
  | 1 => (x &&& y) ||| (~~~x &&& z)
  | 2 => (x ||| ~~~y) ^^^ z
  | 3 => (x &&& z) ||| (y &&& ~~~z)
  | _ => x ^^^ (y ||| ~~~z)

/-- The constants of the left line, one per round. -/
def KLeft : List UInt32 := [0x00000000, 0x5A827999, 0x6ED9EBA1, 0x8F1BBCDC, 0xA953FD4E]

/-- The constants of the right line, one per round. -/
def KRight : List UInt32 := [0x50A28BE6, 0x5C4DD124, 0x6D703EF3, 0x7A6D76E9, 0x00000000]

/-- The word each step of the left line reads. -/
def rLeft : List Nat :=
  [0, 1, 2, 3, 4, 5, 6, 7, 8, 9, 10, 11, 12, 13, 14, 15,
   7, 4, 13, 1, 10, 6, 15, 3, 12, 0, 9, 5, 2, 14, 11, 8,
   3, 10, 14, 4, 9, 15, 8, 1, 2, 7, 0, 6, 13, 11, 5, 12,
   1, 9, 11, 10, 0, 8, 12, 4, 13, 3, 7, 15, 14, 5, 6, 2,
   4, 0, 5, 9, 7, 12, 2, 10, 14, 1, 3, 8, 11, 6, 15, 13]

/-- The word each step of the right line reads. -/
def rRight : List Nat :=
  [5, 14, 7, 0, 9, 2, 11, 4, 13, 6, 15, 8, 1, 10, 3, 12,
   6, 11, 3, 7, 0, 13, 5, 10, 14, 15, 8, 12, 4, 9, 1, 2,
   15, 5, 1, 3, 7, 14, 6, 9, 11, 8, 12, 2, 10, 0, 4, 13,
   8, 6, 4, 1, 3, 11, 15, 0, 5, 12, 2, 13, 9, 7, 10, 14,
   12, 15, 10, 4, 1, 5, 8, 7, 6, 2, 13, 14, 0, 3, 9, 11]

/-- The rotation of each step of the left line. -/
def sLeft : List Nat :=
  [11, 14, 15, 12, 5, 8, 7, 9, 11, 13, 14, 15, 6, 7, 9, 8,
   7, 6, 8, 13, 11, 9, 7, 15, 7, 12, 15, 9, 11, 7, 13, 12,
   11, 13, 6, 7, 14, 9, 13, 15, 14, 8, 13, 6, 5, 12, 7, 5,
   11, 12, 14, 15, 14, 15, 9, 8, 9, 14, 5, 6, 8, 6, 5, 12,
   9, 15, 5, 11, 6, 8, 13, 12, 5, 12, 13, 14, 11, 8, 5, 6]

/-- The rotation of each step of the right line. -/
def sRight : List Nat :=
  [8, 9, 9, 11, 13, 15, 15, 5, 7, 7, 8, 11, 14, 14, 12, 6,
   9, 13, 15, 7, 12, 8, 9, 11, 7, 7, 12, 7, 6, 15, 13, 11,
   9, 7, 15, 11, 8, 6, 6, 14, 12, 13, 5, 14, 13, 13, 7, 5,
   15, 5, 8, 11, 14, 14, 6, 14, 6, 9, 12, 9, 12, 5, 15, 8,
   8, 5, 12, 9, 12, 5, 14, 6, 8, 13, 6, 5, 15, 13, 11, 11]

/-- The message, a `0x80` byte, zeros up to 56 modulo 64, and the length in bits as eight
little-endian bytes.
-/
def pad (message : List UInt8) : List UInt8 :=
  message ++ [0x80] ++ List.replicate ((119 - message.length % 64) % 64) 0
    ++ (beBytes 8 (8 * message.length)).reverse

/-- Little-endian 32-bit words of a block. -/
def words : List UInt8 → List UInt32
  | b0 :: b1 :: b2 :: b3 :: rest =>
      (b0.toUInt32 ||| (b1.toUInt32 <<< 8) ||| (b2.toUInt32 <<< 16) ||| (b3.toUInt32 <<< 24))
        :: words rest
  | _ => []

/-- One step of a line: the function `f round`, the word `x[r]`, the constant `k` and the
rotation `s`.
-/
def step (x : List UInt32) (round : Nat) (k : UInt32) (r s : Nat) (l : Line) : Line :=
  let t := rotl (l.a + f round l.b l.c l.d + x.getD r 0 + k) (UInt32.ofNat s) + l.e
  ⟨l.e, t, l.b, rotl l.c 10, l.d⟩

/-- The compression of one block: the left line runs the functions in order, the right line
in reverse order, and both are folded into the chaining value.
-/
def compress (h : State) (block : List UInt8) : State :=
  let x := words block
  let start : Line := ⟨h.h0, h.h1, h.h2, h.h3, h.h4⟩
  let left := (List.range 80).foldl
    (fun l j => step x (j / 16) (KLeft.getD (j / 16) 0) (rLeft.getD j 0) (sLeft.getD j 0) l) start
  let right := (List.range 80).foldl
    (fun l j => step x (4 - j / 16) (KRight.getD (j / 16) 0) (rRight.getD j 0) (sRight.getD j 0) l)
    start
  ⟨h.h1 + left.c + right.d, h.h2 + left.d + right.e, h.h3 + left.e + right.a,
   h.h4 + left.a + right.b, h.h0 + left.b + right.c⟩

/-- The digest: the five chaining words, each as four little-endian bytes. -/
def State.digest (s : State) : List UInt8 :=
  [s.h0, s.h1, s.h2, s.h3, s.h4].flatMap (fun w => (beBytes 4 w.toNat).reverse)

end Ripemd160

/-- Modelled from the spec: the RIPEMD-160 of the short-address pipeline is not under src/. -/
def computeRipemd160 (message : List UInt8) : List UInt8 :=
  let padded := Ripemd160.pad message
  ((blocks (padded.length / 64) padded).foldl Ripemd160.compress Ripemd160.H0).digest

/-- Every digest has 20 bytes. -/
@[simp]
theorem length_computeRipemd160 (message : List UInt8)
    : (computeRipemd160 message).length = 20 := by
  simp [computeRipemd160, Ripemd160.State.digest]

end AvalancheTypes.Hash
