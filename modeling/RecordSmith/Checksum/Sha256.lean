/-! The hash function SHA-256 on lists of bytes. -/

namespace RecordSmith.Sha256

/-- One word for each of the 64 rounds. -/
def roundWords : List UInt32 :=
  [0x428a2f98, 0x71374491, 0xb5c0fbcf, 0xe9b5dba5, 0x3956c25b, 0x59f111f1, 0x923f82a4,
    0xab1c5ed5, 0xd807aa98, 0x12835b01, 0x243185be, 0x550c7dc3, 0x72be5d74, 0x80deb1fe,
    0x9bdc06a7, 0xc19bf174, 0xe49b69c1, 0xefbe4786, 0x0fc19dc6, 0x240ca1cc, 0x2de92c6f,
    0x4a7484aa, 0x5cb0a9dc, 0x76f988da, 0x983e5152, 0xa831c66d, 0xb00327c8, 0xbf597fc7,
    0xc6e00bf3, 0xd5a79147, 0x06ca6351, 0x14292967, 0x27b70a85, 0x2e1b2138, 0x4d2c6dfc,
    0x53380d13, 0x650a7354, 0x766a0abb, 0x81c2c92e, 0x92722c85, 0xa2bfe8a1, 0xa81a664b,
    0xc24b8b70, 0xc76c51a3, 0xd192e819, 0xd6990624, 0xf40e3585, 0x106aa070, 0x19a4c116,
    0x1e376c08, 0x2748774c, 0x34b0bcb5, 0x391c0cb3, 0x4ed8aa4a, 0x5b9cca4f, 0x682e6ff3,
    0x748f82ee, 0x78a5636f, 0x84c87814, 0x8cc70208, 0x90befffa, 0xa4506ceb, 0xbef9a3f7,
    0xc67178f2]

/-- The eight words of the running hash. -/
structure State where
  a : UInt32
  b : UInt32
  c : UInt32
  d : UInt32
  e : UInt32
  f : UInt32
  g : UInt32
  h : UInt32
deriving Repr, DecidableEq

/-- The hash before the first block. -/
def State.start : State :=
  ⟨0x6a09e667, 0xbb67ae85, 0x3c6ef372, 0xa54ff53a, 0x510e527f, 0x9b05688c, 0x1f83d9ab,
    0x5be0cd19⟩

/-- The word turned right by a number of bits between 1 and 31. -/
def rotate (word count : UInt32) : UInt32 :=
  (word >>> count) ||| (word <<< (32 - count))

/-- Bytes as words, the highest byte first; fewer than four bytes at the end are left out. -/
def toWords : List UInt8 → List UInt32
  | a :: b :: c :: d :: rest =>
      ((a.toUInt32 <<< 24) ||| (b.toUInt32 <<< 16) ||| (c.toUInt32 <<< 8) ||| d.toUInt32)
        :: toWords rest
  | _ => []

/-- A number as eight bytes, the highest first. -/
def lengthBytes (value : Nat) : List UInt8 :=
  [56, 48, 40, 32, 24, 16, 8, 0].map fun shift => (value >>> shift).toUInt8

/-- The bytes followed by a one bit, zero bits up to a full block, and their number of bits. -/
def padded (bytes : List UInt8) : List UInt8 :=
  let zeros := (119 - bytes.length % 64) % 64
  bytes ++ 0x80 :: List.replicate zeros 0 ++ lengthBytes (8 * bytes.length)

/-- Adds words to the words of a block, which stand last first, each from four before it. -/
def extendSchedule : Nat → List UInt32 → List UInt32
  | 0, words => words
  | count + 1, words =>
      let early := words.getD 14 0
      let late := words.getD 1 0
      let mixEarly := rotate early 7 ^^^ rotate early 18 ^^^ (early >>> 3)
      let mixLate := rotate late 17 ^^^ rotate late 19 ^^^ (late >>> 10)
      extendSchedule count ((words.getD 15 0 + mixEarly + words.getD 6 0 + mixLate) :: words)

/-- The words of all rounds for the sixteen words of a block. -/
def schedule (block : List UInt32) : List UInt32 :=
  (extendSchedule 48 block.reverse).reverse

/-- One round with its constant and its word. -/
def State.round (state : State) (words : UInt32 × UInt32) : State :=
  let mixE := rotate state.e 6 ^^^ rotate state.e 11 ^^^ rotate state.e 25
  let choice := (state.e &&& state.f) ^^^ (~~~state.e &&& state.g)
  let first := state.h + mixE + choice + words.1 + words.2
  let mixA := rotate state.a 2 ^^^ rotate state.a 13 ^^^ rotate state.a 22
  let majority := (state.a &&& state.b) ^^^ (state.a &&& state.c) ^^^ (state.b &&& state.c)
  ⟨first + (mixA + majority), state.a, state.b, state.c, state.d + first, state.e, state.f,
    state.g⟩

/-- Adds the words of two hashes. -/
def State.add (x y : State) : State :=
  ⟨x.a + y.a, x.b + y.b, x.c + y.c, x.d + y.d, x.e + y.e, x.f + y.f, x.g + y.g, x.h + y.h⟩

/-- The hash after one more block. -/
def State.absorb (state : State) (block : List UInt32) : State :=
  state.add ((roundWords.zip (schedule block)).foldl State.round state)

/-- The hash after all full blocks of the words. -/
def State.absorbAll (state : State) (words : List UInt32) : State :=
  match full : words.drop 15 with
  | [] => state
  | _ :: rest =>
      have : rest.length < words.length := by
        have := congrArg List.length full
        simp at this
        omega
      (state.absorb (words.take 16)).absorbAll rest
termination_by words.length

/-- The eight hexadecimal digits of a word, in lower case. -/
def wordDigits (word : UInt32) : List Char :=
  [28, 24, 20, 16, 12, 8, 4, 0].map fun shift => Nat.digitChar ((word.toNat >>> shift) % 16)

/-- The 64 hexadecimal digits of the hash of some bytes. -/
def hexDigest (bytes : List UInt8) : String :=
  let s := State.start.absorbAll (toWords (padded bytes))
  String.ofList ([s.a, s.b, s.c, s.d, s.e, s.f, s.g, s.h].flatMap wordDigits)

end RecordSmith.Sha256
