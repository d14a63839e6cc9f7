import NetAtlas.Random.Source

/-!
The Mersenne Twister with 624 words of state, seeded by an integer of any size.
-/

namespace NetAtlas

structure Twister where
  words : Array UInt32
  /-- How many words of the state are used up. -/
  position : Nat

namespace Twister

def size : Nat := 624

def get (words : Array UInt32) (i : Nat) : UInt32 := words.getD i 0

/-- The state that a single word leads to. -/
def spread (seed : UInt32) : Array UInt32 :=
  (List.range (size - 1)).foldl
    (fun words i =>
      let last := get words i
      words.push ((1812433253 : UInt32) * (last ^^^ (last >>> 30)) + UInt32.ofNat (i + 1)))
    #[seed]

/-- The place after `i`; the last word is carried over to the front on the way round. -/
def advance (words : Array UInt32) (i : Nat) : Array UInt32 × Nat :=
  if i + 1 < size then (words, i + 1)
  else (words.setIfInBounds 0 (get words (size - 1)), 1)

/-- Mixes a word with its neighbour. -/
def mixed (words : Array UInt32) (i : Nat) (factor : UInt32) : UInt32 :=
  let last := get words (i - 1)
  get words i ^^^ ((last ^^^ (last >>> 30)) * factor)

/-- Goes round the state, mixing in the words of a key. -/
def mixKey (key : Array UInt32) : Array UInt32 × Nat :=
  let start := (spread 19650218, 1)
  (List.range (max size key.size)).foldl
    (fun (words, i) k =>
      let j := k % key.size
      advance (words.setIfInBounds i (mixed words i 1664525 + get key j + UInt32.ofNat j)) i)
    start

def ofKey (key : Array UInt32) : Twister :=
  let (words, _) :=
    (List.range (size - 1)).foldl
      (fun (words, i) _ =>
        advance (words.setIfInBounds i (mixed words i 1566083941 - UInt32.ofNat i)) i)
      (mixKey key)
  ⟨words.setIfInBounds 0 0x80000000, size⟩

/-- The 32-bit words of a number, lowest first; a single zero for zero. -/
def wordsOf (n : Nat) : List UInt32 :=
  if n < 0x100000000 then [UInt32.ofNat n] else UInt32.ofNat n :: wordsOf (n / 0x100000000)
termination_by n
decreasing_by omega

/-- The sign of a seed does not count. -/
def ofSeed (seed : Int) : Twister := ofKey (wordsOf seed.natAbs).toArray

/-- The next generation of the state. -/
def regenerate (words : Array UInt32) : Array UInt32 :=
  (List.range size).foldl
    (fun words i =>
      let y := (get words i &&& 0x80000000) ||| (get words ((i + 1) % size) &&& 0x7FFFFFFF)
      let twist : UInt32 := if y % 2 = 1 then 0x9908B0DF else 0
      words.setIfInBounds i (get words ((i + 397) % size) ^^^ (y >>> 1) ^^^ twist))
    words

def temper (y : UInt32) : UInt32 :=
  let y := y ^^^ (y >>> 11)
  let y := y ^^^ ((y <<< 7) &&& 0x9D2C5680)
  let y := y ^^^ ((y <<< 15) &&& 0xEFC60000)
  y ^^^ (y >>> 18)

def next (t : Twister) : UInt32 × Twister :=
  let t := if t.position < size then t else ⟨regenerate t.words, 0⟩
  (temper (get t.words t.position), { t with position := t.position + 1 })

instance : WordSource Twister := ⟨next⟩

end Twister

end NetAtlas
