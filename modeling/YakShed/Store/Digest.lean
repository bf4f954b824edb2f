/-
# SHA-256

The function behind the `Sha256` class, computable, so that a whole run of the
store can be replayed with the digests the program would store. The results
about the store hold for every instance of the class.
-/

import YakShed.Store.Timeline

namespace YakShed

namespace Sha256

/-- The fractional parts of the cube roots of the first 64 primes. -/
def roundConstants : List UInt32 :=
  [0x428a2f98, 0x71374491, 0xb5c0fbcf, 0xe9b5dba5, 0x3956c25b, 0x59f111f1, 0x923f82a4, 0xab1c5ed5,
   0xd807aa98, 0x12835b01, 0x243185be, 0x550c7dc3, 0x72be5d74, 0x80deb1fe, 0x9bdc06a7, 0xc19bf174,
   0xe49b69c1, 0xefbe4786, 0x0fc19dc6, 0x240ca1cc, 0x2de92c6f, 0x4a7484aa, 0x5cb0a9dc, 0x76f988da,
   0x983e5152, 0xa831c66d, 0xb00327c8, 0xbf597fc7, 0xc6e00bf3, 0xd5a79147, 0x06ca6351, 0x14292967,
   0x27b70a85, 0x2e1b2138, 0x4d2c6dfc, 0x53380d13, 0x650a7354, 0x766a0abb, 0x81c2c92e, 0x92722c85,
   0xa2bfe8a1, 0xa81a664b, 0xc24b8b70, 0xc76c51a3, 0xd192e819, 0xd6990624, 0xf40e3585, 0x106aa070,
   0x19a4c116, 0x1e376c08, 0x2748774c, 0x34b0bcb5, 0x391c0cb3, 0x4ed8aa4a, 0x5b9cca4f, 0x682e6ff3,
   0x748f82ee, 0x78a5636f, 0x84c87814, 0x8cc70208, 0x90befffa, 0xa4506ceb, 0xbef9a3f7, 0xc67178f2]

/-- The fractional parts of the square roots of the first 8 primes. -/
def initialHash : List UInt32 :=
  [0x6a09e667, 0xbb67ae85, 0x3c6ef372, 0xa54ff53a, 0x510e527f, 0x9b05688c, 0x1f83d9ab, 0x5be0cd19]

def rotateRight (word : UInt32) (count : UInt32) : UInt32 :=
  (word >>> count) ||| (word <<< (32 - count))

def bigEndian (bytes : List UInt8) : UInt32 :=
  bytes.foldl (fun word byte => (word <<< 8) ||| byte.toUInt32) 0

/-- The message, a one bit, zeros up to 56 mod 64 bytes, and its bit length. -/
def pad (message : List UInt8) : List UInt8 :=
  message ++ 0x80 :: List.replicate ((119 - message.length % 64) % 64) 0 ++
    (toLeBytes (8 * message.length)).reverse

/-- The first `count` groups of a given size. -/
def groups {α : Type} (size : Nat) : Nat → List α → List (List α)
  | 0, _ => []
  | count + 1, values => values.take size :: groups size count (values.drop size)

/-- Extends the schedule, held newest first, by one word at a time. -/
def extend : Nat → List UInt32 → List UInt32
  | 0, words => words
  | count + 1, words =>
      let w2 := words.getD 1 0
      let w7 := words.getD 6 0
      let w15 := words.getD 14 0
      let w16 := words.getD 15 0
      let s0 := rotateRight w15 7 ^^^ rotateRight w15 18 ^^^ (w15 >>> 3)
      let s1 := rotateRight w2 17 ^^^ rotateRight w2 19 ^^^ (w2 >>> 10)
      extend count ((w16 + s0 + w7 + s1) :: words)

def round : List UInt32 → UInt32 × UInt32 → List UInt32
  | [a, b, c, d, e, f, g, h], (k, w) =>
      let s1 := rotateRight e 6 ^^^ rotateRight e 11 ^^^ rotateRight e 25
      let choice := (e &&& f) ^^^ (~~~ e &&& g)
      let first := h + s1 + choice + k + w
      let s0 := rotateRight a 2 ^^^ rotateRight a 13 ^^^ rotateRight a 22
      let majority := (a &&& b) ^^^ (a &&& c) ^^^ (b &&& c)
      [first + s0 + majority, a, b, c, d + first, e, f, g]
  | state, _ => state

def compress (hash : List UInt32) (block : List UInt8) : List UInt32 :=
  let words := (extend 48 ((groups 4 16 block).map bigEndian).reverse).reverse
  List.zipWith (· + ·) hash ((roundConstants.zip words).foldl round hash)

/-- SHA-256 of a byte string. -/
def sha256 (message : List UInt8) : List UInt8 :=
  let padded := pad message
  ((groups 64 (padded.length / 64) padded).foldl compress initialHash).flatMap fun word : UInt32 =>
    [(word >>> 24).toUInt8, (word >>> 16).toUInt8, (word >>> 8).toUInt8, word.toUInt8]

instance : Sha256 := ⟨sha256⟩

end Sha256

end YakShed
