/-!
The digest SHA-512 of a sequence of bytes. Its constants are the fractional parts of roots of the
first primes.
-/

namespace NetAtlas.Digest

/-- Sets the lowest `bits` bits of a root, highest first, where its `k`-th power stays at most `n`. -/
def rootFrom (k n : Nat) : (bits : Nat) → (root : Nat) → Nat
  | 0, root => root
  | bits + 1, root =>
    let next := root + Nat.pow 2 bits
    rootFrom k n bits (if Nat.pow next k ≤ n then next else root)

/-- The first 64 bits after the point in the `k`-th root of a number below 512. -/
def rootBits (k n : Nat) : UInt64 := UInt64.ofNat (rootFrom k (n * Nat.pow 2 (64 * k)) 70 0)

/-- The first eighty primes. -/
def primes : List Nat :=
  (List.range 410).filter fun n => decide (2 ≤ n) && (List.range n).all fun d => d < 2 || n % d != 0

/-- The words that each block of sixteen words is stirred with, one for each round. -/
def roundWords : List UInt64 := primes.map (rootBits 3)

structure State where
  a : UInt64
  b : UInt64
  c : UInt64
  d : UInt64
  e : UInt64
  f : UInt64
  g : UInt64
  h : UInt64

namespace State

def initial : State :=
  ⟨rootBits 2 2, rootBits 2 3, rootBits 2 5, rootBits 2 7, rootBits 2 11, rootBits 2 13,
    rootBits 2 17, rootBits 2 19⟩

def add (s t : State) : State :=
  ⟨s.a + t.a, s.b + t.b, s.c + t.c, s.d + t.d, s.e + t.e, s.f + t.f, s.g + t.g, s.h + t.h⟩

def words (s : State) : List UInt64 := [s.a, s.b, s.c, s.d, s.e, s.f, s.g, s.h]

end State

def rotate (x n : UInt64) : UInt64 := (x >>> n) ||| (x <<< (64 - n))

/-- A round takes in one word of the block and one word of its own. -/
def round (s : State) (words : UInt64 × UInt64) : State :=
  let stirred := rotate s.e 14 ^^^ rotate s.e 18 ^^^ rotate s.e 41
  let chosen := (s.e &&& s.f) ^^^ ((s.e ^^^ 0xFFFFFFFFFFFFFFFF) &&& s.g)
  let first := s.h + stirred + chosen + words.1 + words.2
  let turned := rotate s.a 28 ^^^ rotate s.a 34 ^^^ rotate s.a 39
  let most := (s.a &&& s.b) ^^^ (s.a &&& s.c) ^^^ (s.b &&& s.c)
  ⟨first + turned + most, s.a, s.b, s.c, s.d + first, s.e, s.f, s.g⟩

/-- The words of all rounds: those of the block, and more that are mixed from words before them. -/
def schedule (block : Array UInt64) : (more : Nat) → Array UInt64
  | 0 => block
  | more + 1 =>
    let words := schedule block more
    let back (n : Nat) : UInt64 := words.getD (words.size - n) 0
    let low := rotate (back 15) 1 ^^^ rotate (back 15) 8 ^^^ (back 15 >>> 7)
    let high := rotate (back 2) 19 ^^^ rotate (back 2) 61 ^^^ (back 2 >>> 6)
    words.push (back 16 + low + back 7 + high)

/-- Takes in a block of sixteen words. -/
def absorb (s : State) (block : List UInt64) : State :=
  s.add (((schedule block.toArray 64).toList.zip roundWords).foldl round s)

/-- Eight bytes as a word, the highest byte first. -/
def wordOf (bytes : List UInt8) : UInt64 := bytes.foldl (fun word b => word * 256 + b.toUInt64) 0

def bytesOf (word : UInt64) : List UInt8 :=
  (List.range 8).map fun i => (word >>> UInt64.ofNat (56 - 8 * i)).toUInt8

/-- Items in groups of `size + 1`. -/
def groups {α : Type} (size : Nat) : List α → List (List α)
  | [] => []
  | x :: xs => (x :: xs.take size) :: groups size (xs.drop size)
termination_by xs => xs.length
decreasing_by simp only [List.length_drop, List.length_cons]; omega

/-- The bytes with a mark after them and their length in bits at the end of the last block. -/
def padded (bytes : List UInt8) : List UInt8 :=
  let zeros := (239 - bytes.length % 128) % 128
  bytes ++ 0x80 :: List.replicate zeros 0 ++ bytesOf (UInt64.ofNat (bytes.length / Nat.pow 2 61))
    ++ bytesOf (UInt64.ofNat (8 * bytes.length))

/-- The digest, in 64 bytes. -/
def ofBytes (bytes : List UInt8) : List UInt8 :=
  let blocks := groups 15 ((groups 7 (padded bytes)).map wordOf)
  (blocks.foldl absorb State.initial).words.flatMap bytesOf

end NetAtlas.Digest
