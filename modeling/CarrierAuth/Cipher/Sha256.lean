import CarrierAuth.Octets

/-
  SHA-256 — the hash of FIPS 180-4, on words of 32 bits.
-/
namespace CarrierAuth.Sha256

def size : Nat := 32

def roundConstants : List UInt32 := [
  0x428a2f98, 0x71374491, 0xb5c0fbcf, 0xe9b5dba5, 0x3956c25b, 0x59f111f1, 0x923f82a4, 0xab1c5ed5,
  0xd807aa98, 0x12835b01, 0x243185be, 0x550c7dc3, 0x72be5d74, 0x80deb1fe, 0x9bdc06a7, 0xc19bf174,
  0xe49b69c1, 0xefbe4786, 0x0fc19dc6, 0x240ca1cc, 0x2de92c6f, 0x4a7484aa, 0x5cb0a9dc, 0x76f988da,
  0x983e5152, 0xa831c66d, 0xb00327c8, 0xbf597fc7, 0xc6e00bf3, 0xd5a79147, 0x06ca6351, 0x14292967,
  0x27b70a85, 0x2e1b2138, 0x4d2c6dfc, 0x53380d13, 0x650a7354, 0x766a0abb, 0x81c2c92e, 0x92722c85,
  0xa2bfe8a1, 0xa81a664b, 0xc24b8b70, 0xc76c51a3, 0xd192e819, 0xd6990624, 0xf40e3585, 0x106aa070,
  0x19a4c116, 0x1e376c08, 0x2748774c, 0x34b0bcb5, 0x391c0cb3, 0x4ed8aa4a, 0x5b9cca4f, 0x682e6ff3,
  0x748f82ee, 0x78a5636f, 0x84c87814, 0x8cc70208, 0x90befffa, 0xa4506ceb, 0xbef9a3f7, 0xc67178f2]

/-- The eight working words. -/
structure State where
  a : UInt32
  b : UInt32
  c : UInt32
  d : UInt32
  e : UInt32
  f : UInt32
  g : UInt32
  h : UInt32

/-- The words before the first block. -/
def State.first : State :=
  ⟨0x6a09e667, 0xbb67ae85, 0x3c6ef372, 0xa54ff53a, 0x510e527f, 0x9b05688c, 0x1f83d9ab, 0x5be0cd19⟩

def rotate (x : UInt32) (n : UInt32) : UInt32 := (x >>> n) ||| (x <<< (32 - n))

/-- The word that follows sixteen words of the schedule, given newest first. -/
def nextWord (newest : List UInt32) : UInt32 :=
  let word (i : Nat) : UInt32 := newest.getD i 0
  let x := word 14
  let y := word 1
  let s0 := rotate x 7 ^^^ rotate x 18 ^^^ (x >>> 3)
  let s1 := rotate y 17 ^^^ rotate y 19 ^^^ (y >>> 10)
  word 15 + s0 + word 6 + s1

/-- Extends a schedule, newest word first, by a number of words. -/
def extend : Nat → List UInt32 → List UInt32
  | 0, newest => newest
  | n + 1, newest => extend n (nextWord newest :: newest)

def round (s : State) (k w : UInt32) : State :=
  let s1 := rotate s.e 6 ^^^ rotate s.e 11 ^^^ rotate s.e 25
  let choice := (s.e &&& s.f) ^^^ ((s.e ^^^ 0xffffffff) &&& s.g)
  let t1 := s.h + s1 + choice + k + w
  let s0 := rotate s.a 2 ^^^ rotate s.a 13 ^^^ rotate s.a 22
  let majority := (s.a &&& s.b) ^^^ (s.a &&& s.c) ^^^ (s.b &&& s.c)
  ⟨t1 + s0 + majority, s.a, s.b, s.c, s.d + t1, s.e, s.f, s.g⟩

/-- Works one block of sixteen words into the state. -/
def block (s : State) (words : List UInt32) : State :=
  let schedule := (extend 48 words.reverse).reverse
  let t := (roundConstants.zip schedule).foldl (fun s kw => round s kw.1 kw.2) s
  ⟨s.a + t.a, s.b + t.b, s.c + t.c, s.d + t.d, s.e + t.e, s.f + t.f, s.g + t.g, s.h + t.h⟩

/-- Groups octets into words, the first octet most significant. -/
def words : Octets → List UInt32
  | a :: b :: c :: d :: rest =>
    ((a.toUInt32 <<< 24) ||| (b.toUInt32 <<< 16) ||| (c.toUInt32 <<< 8) ||| d.toUInt32)
      :: words rest
  | _ => []

/-- The octets of a word, the most significant first. -/
def wordOctets (w : UInt32) : Octets :=
  [(w >>> 24).toUInt8, (w >>> 16).toUInt8, (w >>> 8).toUInt8, w.toUInt8]

/-- The last `n` octets of a number, the most significant first. -/
def lengthOctets : Nat → Nat → Octets
  | 0, _ => []
  | n + 1, m => lengthOctets n (m / 256) ++ [UInt8.ofNat m]

/-- A message filled up to whole blocks: a one bit, zeros, and its length in bits. -/
def padded (data : Octets) : Octets :=
  let zeros := (119 - data.length % 64) % 64
  data ++ [0x80] ++ List.replicate zeros 0 ++ lengthOctets 8 (8 * data.length)

/-- Works a number of blocks into the state. -/
def blocks : Nat → State → List UInt32 → State
  | 0, s, _ => s
  | n + 1, s, ws => blocks n (block s (ws.take 16)) (ws.drop 16)

def hash (data : Octets) : Octets :=
  let ws := words (padded data)
  let s := blocks (ws.length / 16) State.first ws
  [s.a, s.b, s.c, s.d, s.e, s.f, s.g, s.h].flatMap wordOctets

end CarrierAuth.Sha256
