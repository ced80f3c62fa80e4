/-
# Theory.Sha256 -- the digest the journals chain with

`hexdigest` is `hashlib.sha256(data).hexdigest()`.  Nothing is assumed about the
function beyond its shape: `isHexDigest_hexdigest` says the text is sixty-four
lower-case hexadecimal digits.
-/
import InstrumentBench.Theory.Json

namespace InstrumentBench.Theory

set_option autoImplicit false

namespace Sha256

/-- The eight working words. -/
structure State where
  a : UInt32
  b : UInt32
  c : UInt32
  d : UInt32
  e : UInt32
  f : UInt32
  g : UInt32
  h : UInt32
deriving DecidableEq

def initial : State :=
  ⟨0x6a09e667, 0xbb67ae85, 0x3c6ef372, 0xa54ff53a, 0x510e527f, 0x9b05688c, 0x1f83d9ab, 0x5be0cd19⟩

def roundConstants : List UInt32 :=
  [0x428a2f98, 0x71374491, 0xb5c0fbcf, 0xe9b5dba5, 0x3956c25b, 0x59f111f1, 0x923f82a4, 0xab1c5ed5,
   0xd807aa98, 0x12835b01, 0x243185be, 0x550c7dc3, 0x72be5d74, 0x80deb1fe, 0x9bdc06a7, 0xc19bf174,
   0xe49b69c1, 0xefbe4786, 0x0fc19dc6, 0x240ca1cc, 0x2de92c6f, 0x4a7484aa, 0x5cb0a9dc, 0x76f988da,
   0x983e5152, 0xa831c66d, 0xb00327c8, 0xbf597fc7, 0xc6e00bf3, 0xd5a79147, 0x06ca6351, 0x14292967,
   0x27b70a85, 0x2e1b2138, 0x4d2c6dfc, 0x53380d13, 0x650a7354, 0x766a0abb, 0x81c2c92e, 0x92722c85,
   0xa2bfe8a1, 0xa81a664b, 0xc24b8b70, 0xc76c51a3, 0xd192e819, 0xd6990624, 0xf40e3585, 0x106aa070,
   0x19a4c116, 0x1e376c08, 0x2748774c, 0x34b0bcb5, 0x391c0cb3, 0x4ed8aa4a, 0x5b9cca4f, 0x682e6ff3,
   0x748f82ee, 0x78a5636f, 0x84c87814, 0x8cc70208, 0x90befffa, 0xa4506ceb, 0xbef9a3f7, 0xc67178f2]

def rotr (x n : UInt32) : UInt32 := (x >>> n) ||| (x <<< (32 - n))

/-- The message length in bits closes the padding, so whole blocks come out. -/
def pad (data : Bytes) : Bytes :=
  let bits := data.length * 8
  data ++ (0x80 : UInt8) :: (List.replicate ((119 - data.length % 64) % 64) (0 : UInt8) ++
    (List.range 8).map fun i => UInt8.ofNat (bits >>> (8 * (7 - i))))

def words : Bytes → List UInt32
  | w :: x :: y :: z :: rest =>
      ((w.toUInt32 <<< 24) ||| (x.toUInt32 <<< 16) ||| (y.toUInt32 <<< 8) ||| z.toUInt32) ::
        words rest
  | _ => []

/-- The message schedule, newest word first. -/
def extend : Nat → List UInt32 → List UInt32
  | 0, ws => ws
  | n + 1, ws =>
      let back (i : Nat) : UInt32 := ws.getD (i - 1) 0
      let s0 := rotr (back 15) 7 ^^^ rotr (back 15) 18 ^^^ (back 15 >>> 3)
      let s1 := rotr (back 2) 17 ^^^ rotr (back 2) 19 ^^^ (back 2 >>> 10)
      extend n ((back 16 + s0 + back 7 + s1) :: ws)

def round (s : State) (kw : UInt32 × UInt32) : State :=
  let s1 := rotr s.e 6 ^^^ rotr s.e 11 ^^^ rotr s.e 25
  let ch := (s.e &&& s.f) ^^^ (~~~s.e &&& s.g)
  let t1 := s.h + s1 + ch + kw.1 + kw.2
  let s0 := rotr s.a 2 ^^^ rotr s.a 13 ^^^ rotr s.a 22
  let maj := (s.a &&& s.b) ^^^ (s.a &&& s.c) ^^^ (s.b &&& s.c)
  ⟨t1 + (s0 + maj), s.a, s.b, s.c, s.d + t1, s.e, s.f, s.g⟩

def compress (s : State) (block : List UInt32) : State :=
  let schedule := (extend 48 block.reverse).reverse
  let r := (roundConstants.zip schedule).foldl round s
  ⟨s.a + r.a, s.b + r.b, s.c + r.c, s.d + r.d, s.e + r.e, s.f + r.f, s.g + r.g, s.h + r.h⟩

/-- Compress block after block; the number of words is fuel enough. -/
def absorb : Nat → State → List UInt32 → State
  | 0, s, _ => s
  | _ + 1, s, [] => s
  | n + 1, s, w :: ws => absorb n (compress s ((w :: ws).take 16)) ((w :: ws).drop 16)

def digest (data : Bytes) : State :=
  let ws := words (pad data)
  absorb ws.length initial ws

/-- Eight hexadecimal digits. -/
def hex8 (w : UInt32) : Text := Json.hex4 (w.toNat / 0x10000) ++ Json.hex4 w.toNat

end Sha256

/-- `hashlib.sha256(data).hexdigest()` -/
def hexdigest (data : Bytes) : Text :=
  let s := Sha256.digest data
  [s.a, s.b, s.c, s.d, s.e, s.f, s.g, s.h].flatMap Sha256.hex8

def isHexDigit (c : CodePoint) : Bool :=
  (48 ≤ c.val && c.val ≤ 57) || (97 ≤ c.val && c.val ≤ 102)

/-- Sixty-four lower-case hexadecimal digits. -/
def isHexDigest (t : Text) : Bool := t.length = 64 && t.all isHexDigit

theorem isHexDigit_hexDigit (n : Nat) : isHexDigit (Json.hexDigit n) = true := by
  unfold Json.hexDigit isHexDigit
  split <;> simp <;> omega

theorem isHexDigest_hexdigest (data : Bytes) : isHexDigest (hexdigest data) = true := by
  simp [isHexDigest, hexdigest, Sha256.hex8, Json.hex4, isHexDigit_hexDigit]

example : hexdigest (ascii "abc") =
    txt "ba7816bf8f01cfea414140de5dae2223b00361a396177a9cb410ff61f20015ad" := by decide +kernel

end InstrumentBench.Theory
