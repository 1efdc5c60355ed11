import VramGovernor.Foundations.GoString

/-!
# SHA-256

The digest of FIPS 180-4 on byte strings, for the identities the store derives from one
(`crypto/sha256`). It is executable; no result depends on which function it is.
-/

namespace VramGovernor.Sha256

def roundConstants : List UInt32 :=
  [0x428a2f98, 0x71374491, 0xb5c0fbcf, 0xe9b5dba5, 0x3956c25b, 0x59f111f1, 0x923f82a4, 0xab1c5ed5,
   0xd807aa98, 0x12835b01, 0x243185be, 0x550c7dc3, 0x72be5d74, 0x80deb1fe, 0x9bdc06a7, 0xc19bf174,
   0xe49b69c1, 0xefbe4786, 0x0fc19dc6, 0x240ca1cc, 0x2de92c6f, 0x4a7484aa, 0x5cb0a9dc, 0x76f988da,
   0x983e5152, 0xa831c66d, 0xb00327c8, 0xbf597fc7, 0xc6e00bf3, 0xd5a79147, 0x06ca6351, 0x14292967,
   0x27b70a85, 0x2e1b2138, 0x4d2c6dfc, 0x53380d13, 0x650a7354, 0x766a0abb, 0x81c2c92e, 0x92722c85,
   0xa2bfe8a1, 0xa81a664b, 0xc24b8b70, 0xc76c51a3, 0xd192e819, 0xd6990624, 0xf40e3585, 0x106aa070,
   0x19a4c116, 0x1e376c08, 0x2748774c, 0x34b0bcb5, 0x391c0cb3, 0x4ed8aa4a, 0x5b9cca4f, 0x682e6ff3,
   0x748f82ee, 0x78a5636f, 0x84c87814, 0x8cc70208, 0x90befffa, 0xa4506ceb, 0xbef9a3f7, 0xc67178f2]

/-- The working variables. -/
structure Words where
  (a b c d e f g h : UInt32)

def Words.init : Words :=
  ⟨0x6a09e667, 0xbb67ae85, 0x3c6ef372, 0xa54ff53a, 0x510e527f, 0x9b05688c, 0x1f83d9ab, 0x5be0cd19⟩

def Words.toList (w : Words) : List UInt32 := [w.a, w.b, w.c, w.d, w.e, w.f, w.g, w.h]

def rotr (x n : UInt32) : UInt32 := (x >>> n) ||| (x <<< (32 - n))

/-- One round with message word `w` and round constant `k`. -/
def round (s : Words) (k w : UInt32) : Words :=
  let s₁ := rotr s.e 6 ^^^ rotr s.e 11 ^^^ rotr s.e 25
  let t₁ := s.h + s₁ + ((s.e &&& s.f) ^^^ (~~~s.e &&& s.g)) + k + w
  let s₀ := rotr s.a 2 ^^^ rotr s.a 13 ^^^ rotr s.a 22
  let t₂ := s₀ + ((s.a &&& s.b) ^^^ (s.a &&& s.c) ^^^ (s.b &&& s.c))
  ⟨t₁ + t₂, s.a, s.b, s.c, s.d + t₁, s.e, s.f, s.g⟩

/-- The rounds of a block over the constants `ks`; `w` are the next sixteen words of the message
schedule. -/
def rounds : List UInt32 → List UInt32 → Words → Words
  | [], _, s => s
  | k :: ks, w, s =>
    let w₀ := w.getD 0 0
    let w₁ := w.getD 1 0
    let w₁₄ := w.getD 14 0
    let x := rotr w₁ 7 ^^^ rotr w₁ 18 ^^^ (w₁ >>> 3)
    let y := rotr w₁₄ 17 ^^^ rotr w₁₄ 19 ^^^ (w₁₄ >>> 10)
    rounds ks (w.tail ++ [w₀ + x + w.getD 9 0 + y]) (round s k w₀)

/-- The hash value after a block of sixteen words. -/
def block (s : Words) (w : List UInt32) : Words :=
  let t := rounds roundConstants w s
  ⟨s.a + t.a, s.b + t.b, s.c + t.c, s.d + t.d, s.e + t.e, s.f + t.f, s.g + t.g, s.h + t.h⟩

/-- Big-endian words of a byte string. -/
def toWords : List UInt8 → List UInt32
  | a :: b :: c :: d :: s =>
    ((a.toUInt32 <<< 24) ||| (b.toUInt32 <<< 16) ||| (c.toUInt32 <<< 8) ||| d.toUInt32) :: toWords s
  | _ => []

def ofWord (w : UInt32) : List UInt8 :=
  [(w >>> 24).toUInt8, (w >>> 16).toUInt8, (w >>> 8).toUInt8, w.toUInt8]

/-- The padding of a message of `n` bytes. -/
def padding (n : ℕ) : List UInt8 :=
  let bits := 8 * n
  0x80 :: List.replicate ((119 - n % 64) % 64) 0 ++
    (ofWord (bits / 2 ^ 32).toUInt32 ++ ofWord bits.toUInt32)

/-- The blocks of a padded message, `fuel` of them at most. -/
def blocks : ℕ → List UInt32 → Words → Words
  | 0, _, s => s
  | fuel + 1, w, s => if w.isEmpty then s else blocks fuel (w.drop 16) (block s (w.take 16))

def sum256 (s : GoString) : GoString :=
  let w := toWords (s ++ padding s.length)
  (blocks w.length w Words.init).toList.flatMap ofWord

end VramGovernor.Sha256
