/-!
# Digests

A record is known by the SHA-256 digest of a text that says what it is about.

* `padded`: the message with a one bit, zeros and its length in bits, so that it fills whole blocks;
* `schedule`: the sixty-four words of a block; `compress`: what a block does to the state;
* `sha256`: the eight words of the digest; `digestText`: its sixty-four digits in base sixteen.
-/

namespace TreeIndex.Digest

/-! ## 1. Words -/

/-- A word turned right by some bits. -/
def rotateRight (x : UInt32) (n : UInt32) : UInt32 :=
  (x >>> n) ||| (x <<< (32 - n))

/-- Four bytes as a word, the first one highest. -/
def wordOf (a b c d : UInt8) : UInt32 :=
  (a.toUInt32 <<< 24) ||| (b.toUInt32 <<< 16) ||| (c.toUInt32 <<< 8) ||| d.toUInt32

/-- Bytes as words; up to three bytes at the end are left out. -/
def wordsOf : List UInt8 → List UInt32
  | a :: b :: c :: d :: rest => wordOf a b c d :: wordsOf rest
  | _ => []

/-- The eight lowest bytes of a number, the highest one first. -/
def lengthBytes (n : Nat) : List UInt8 :=
  [56, 48, 40, 32, 24, 16, 8, 0].map fun shift => UInt8.ofNat (n >>> shift)

/-- The message **filled up to whole blocks**: a one bit, zeros and the length in bits. -/
def padded (message : List UInt8) : List UInt8 :=
  let filling := (119 - message.length % 64) % 64
  message ++ 0x80 :: List.replicate filling 0 ++ lengthBytes (8 * message.length)

/-! ## 2. Blocks -/

/-- The constants of the rounds: fractional parts of the cube roots of the first sixty-four primes. -/
def roundConstants : List UInt32 :=
  [0x428a2f98, 0x71374491, 0xb5c0fbcf, 0xe9b5dba5, 0x3956c25b, 0x59f111f1,
   0x923f82a4, 0xab1c5ed5, 0xd807aa98, 0x12835b01, 0x243185be, 0x550c7dc3,
   0x72be5d74, 0x80deb1fe, 0x9bdc06a7, 0xc19bf174, 0xe49b69c1, 0xefbe4786,
   0x0fc19dc6, 0x240ca1cc, 0x2de92c6f, 0x4a7484aa, 0x5cb0a9dc, 0x76f988da,
   0x983e5152, 0xa831c66d, 0xb00327c8, 0xbf597fc7, 0xc6e00bf3, 0xd5a79147,
   0x06ca6351, 0x14292967, 0x27b70a85, 0x2e1b2138, 0x4d2c6dfc, 0x53380d13,
   0x650a7354, 0x766a0abb, 0x81c2c92e, 0x92722c85, 0xa2bfe8a1, 0xa81a664b,
   0xc24b8b70, 0xc76c51a3, 0xd192e819, 0xd6990624, 0xf40e3585, 0x106aa070,
   0x19a4c116, 0x1e376c08, 0x2748774c, 0x34b0bcb5, 0x391c0cb3, 0x4ed8aa4a,
   0x5b9cca4f, 0x682e6ff3, 0x748f82ee, 0x78a5636f, 0x84c87814, 0x8cc70208,
   0x90befffa, 0xa4506ceb, 0xbef9a3f7, 0xc67178f2]

/-- The first state: fractional parts of the square roots of the first eight primes. -/
def firstState : List UInt32 :=
  [0x6a09e667, 0xbb67ae85, 0x3c6ef372, 0xa54ff53a, 0x510e527f, 0x9b05688c,
   0x1f83d9ab, 0x5be0cd19]

/-- Adds `n` words to a schedule whose **latest word stands first**. -/
def extendSchedule : Nat → List UInt32 → List UInt32
  | 0, ws => ws
  | n + 1, ws =>
    let x := ws.getD 14 0
    let y := ws.getD 1 0
    let mixX := rotateRight x 7 ^^^ rotateRight x 18 ^^^ (x >>> 3)
    let mixY := rotateRight y 17 ^^^ rotateRight y 19 ^^^ (y >>> 10)
    extendSchedule n ((ws.getD 15 0 + mixX + ws.getD 6 0 + mixY) :: ws)

/-- The sixty-four words of a block of sixteen. -/
def schedule (block : List UInt32) : List UInt32 :=
  (extendSchedule 48 block.reverse).reverse

/-- One round with the sum of its constant and its word. -/
def round (state : List UInt32) (input : UInt32) : List UInt32 :=
  match state with
  | [a, b, c, d, e, f, g, h] =>
    let mixE := rotateRight e 6 ^^^ rotateRight e 11 ^^^ rotateRight e 25
    let choice := (e &&& f) ^^^ (~~~e &&& g)
    let first := h + mixE + choice + input
    let mixA := rotateRight a 2 ^^^ rotateRight a 13 ^^^ rotateRight a 22
    let majority := (a &&& b) ^^^ (a &&& c) ^^^ (b &&& c)
    [first + mixA + majority, a, b, c, d + first, e, f, g]
  | other => other

/-- **What a block does to the state.** -/
def compress (state block : List UInt32) : List UInt32 :=
  let inputs := List.zipWith (· + ·) roundConstants (schedule block)
  List.zipWith (· + ·) state (inputs.foldl round state)

/-- Compresses the blocks of some words, at most `limit` of them. -/
def compressAll : Nat → List UInt32 → List UInt32 → List UInt32
  | 0, state, _ => state
  | limit + 1, state, ws =>
    if ws.isEmpty then state
    else compressAll limit (compress state (ws.take 16)) (ws.drop 16)

/-! ## 3. Digests -/

/-- The **SHA-256 digest** of a message, as eight words. -/
def sha256 (message : List UInt8) : List UInt32 :=
  let ws := wordsOf (padded message)
  compressAll ws.length firstState ws

/-- A word as eight digits in base sixteen. -/
def wordText (x : UInt32) : List Char :=
  let digits := Nat.toDigits 16 x.toNat
  List.replicate (8 - digits.length) '0' ++ digits

/-- The digest of a text's bytes, in base sixteen. -/
def digestText (text : String) : String :=
  String.ofList ((sha256 text.toUTF8.toList).flatMap wordText)

end TreeIndex.Digest
