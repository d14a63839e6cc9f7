/-!
Reading UTF-8 with repair: each maximal ill-formed part of the bytes becomes one replacement
character, so every byte sequence is some text.
-/

namespace NetAtlas.Text.Utf8

def replacement : Char := '\uFFFD'

/-- A character of which some bytes are read: its code so far, how many bytes are missing, and the
range the next one has to lie in. -/
structure Partial where
  code : Nat
  missing : Nat
  least : Nat
  most : Nat

/-- What a byte that does not continue a character does. -/
inductive Lead where
  | whole (c : Char)
  | opens (p : Partial)
  | stray

def Lead.ofByte (b : UInt8) : Lead :=
  let n := b.toNat
  if n < 0x80 then .whole (Char.ofNat n)
  else if n < 0xC2 then .stray
  else if n < 0xE0 then .opens ⟨n - 0xC0, 1, 0x80, 0xBF⟩
  else if n = 0xE0 then .opens ⟨0, 2, 0xA0, 0xBF⟩
  else if n = 0xED then .opens ⟨0xD, 2, 0x80, 0x9F⟩
  else if n < 0xF0 then .opens ⟨n - 0xE0, 2, 0x80, 0xBF⟩
  else if n = 0xF0 then .opens ⟨0, 3, 0x90, 0xBF⟩
  else if n < 0xF4 then .opens ⟨n - 0xF0, 3, 0x80, 0xBF⟩
  else if n = 0xF4 then .opens ⟨4, 3, 0x80, 0x8F⟩
  else .stray

/-- The characters completed by one more byte, and the character left open after it. -/
def step : Option Partial → UInt8 → List Char × Option Partial
  | none, b =>
    match Lead.ofByte b with
    | .whole c => ([c], none)
    | .opens p => ([], some p)
    | .stray => ([replacement], none)
  | some p, b =>
    if p.least ≤ b.toNat ∧ b.toNat ≤ p.most then
      let code := p.code * 0x40 + (b.toNat - 0x80)
      if p.missing ≤ 1 then ([Char.ofNat code], none)
      else ([], some ⟨code, p.missing - 1, 0x80, 0xBF⟩)
    else
      match Lead.ofByte b with
      | .whole c => ([replacement, c], none)
      | .opens q => ([replacement], some q)
      | .stray => ([replacement, replacement], none)

def decodeFrom : Option Partial → List UInt8 → List Char
  | none, [] => []
  | some _, [] => [replacement]
  | p, b :: bs =>
    let (cs, q) := step p b
    cs ++ decodeFrom q bs

/-- The text that a sequence of bytes spells. -/
def decode (bytes : List UInt8) : String := String.ofList (decodeFrom none bytes)

end NetAtlas.Text.Utf8
