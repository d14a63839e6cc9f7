import NetAtlas.Picture.Canvas

/-!
Pictures as PNG files. The dots are stored as they are, without compression.
-/

namespace NetAtlas.Picture

/-- A number in so many bytes, highest first. -/
def bigEndian (count n : Nat) : List UInt8 :=
  (List.range count).reverse.map fun i => UInt8.ofNat (n / Nat.pow 256 i)

def littleEndian (count n : Nat) : List UInt8 := (bigEndian count n).reverse

/-- One bit of the cyclic redundancy check. -/
def checkBit (crc : UInt32) : UInt32 :=
  if crc &&& 1 = 0 then crc >>> 1 else (crc >>> 1) ^^^ 0xEDB88320

def checkByte (crc : UInt32) (b : UInt8) : UInt32 :=
  (List.range 8).foldl (fun crc _ => checkBit crc) (crc ^^^ b.toUInt32)

/-- The cyclic redundancy check of bytes. -/
def redundancyCheck (bytes : List UInt8) : UInt32 := bytes.foldl checkByte 0xFFFFFFFF ^^^ 0xFFFFFFFF

/-- Two sums modulo the largest prime below `2 ^ 16`. -/
def sumCheck (bytes : List UInt8) : Nat :=
  let (a, b) := bytes.foldl (fun (a, b) byte =>
    let a := (a + byte.toNat) % 65521
    (a, (b + a) % 65521)) (1, 0)
  b * 65536 + a

/-- A chunk of a file: the length of its data, its kind, its data and their check. -/
def chunk (kind : String) (data : List UInt8) : List UInt8 :=
  let body := kind.toUTF8.toList ++ data
  bigEndian 4 data.length ++ body ++ bigEndian 4 (redundancyCheck body).toNat

/-- The longest block that can be stored. -/
def longestBlock : Nat := 65535

/-- Bytes in stored blocks, of which the last one is marked. -/
def storedBlocks (bytes : List UInt8) : (fuel : Nat) → List UInt8
  | 0 => []
  | fuel + 1 =>
    let block := bytes.take longestBlock
    let rest := bytes.drop longestBlock
    let last : UInt8 := if rest.isEmpty then 1 else 0
    last :: (littleEndian 2 block.length ++ littleEndian 2 (65535 - block.length) ++ block
      ++ if rest.isEmpty then [] else storedBlocks rest fuel)

def stored (bytes : List UInt8) : List UInt8 :=
  [0x78, 0x01] ++ storedBlocks bytes (bytes.length / longestBlock + 1)
    ++ bigEndian 4 (sumCheck bytes)

/-- The rows of a canvas, each with a mark that it is not filtered. -/
def rows (c : Canvas) : List UInt8 :=
  (List.range c.height).flatMap fun y =>
    0 :: (c.cells.extract (y * c.width) ((y + 1) * c.width)).toList

def signature : List UInt8 := [0x89, 0x50, 0x4E, 0x47, 0x0D, 0x0A, 0x1A, 0x0A]

/-- The picture as a PNG file with a palette. -/
def png (p : Picture) : List UInt8 :=
  let c := Canvas.ofPicture p
  signature
    ++ chunk "IHDR" (bigEndian 4 c.width ++ bigEndian 4 c.height ++ [8, 3, 0, 0, 0])
    ++ chunk "PLTE" (Canvas.palette.flatMap fun k => [k.red, k.green, k.blue])
    ++ chunk "IDAT" (stored (rows c)) ++ chunk "IEND" []

end NetAtlas.Picture
