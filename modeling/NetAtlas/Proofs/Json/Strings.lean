import Mathlib.Data.List.Basic
import NetAtlas.Json.Reader
import NetAtlas.Json.Writer

/-!
Strings in JSON: a string in quotes is read back as it was written, with every escape in it. One
unit of fuel is enough for each of its characters, however long its escape.
-/

namespace NetAtlas

namespace Text

theorem hexDigits_of_lt {n : Nat} (hn : n < 16) : hexDigits 1 n = [Nat.digitChar n] := by
  simp [hexDigits, Nat.toDigits_of_lt_base hn]

/-- The last digit comes from the remainder, those before it from the quotient. -/
theorem hexDigits_succ {width : Nat} (hwidth : 1 ≤ width) (n : Nat) :
    hexDigits (width + 1) n = hexDigits width (n / 16) ++ [Nat.digitChar (n % 16)] := by
  by_cases hn : n < 16
  · obtain ⟨rest, rfl⟩ := Nat.exists_eq_add_of_le' hwidth
    rw [Nat.div_eq_of_lt hn, Nat.mod_eq_of_lt hn]
    simp [hexDigits, Nat.toDigits_of_lt_base hn, Nat.toDigits_of_lt_base (show 0 < 16 by decide),
      List.replicate_succ']
  · rw [hexDigits, hexDigits, Nat.toDigits_of_base_le (by decide) (by omega)]
    simp

theorem hexDigits_four {n : Nat} (hn : n < 0x10000) :
    hexDigits 4 n =
      [n / 0x1000, n / 0x100 % 16, n / 16 % 16, n % 16].map Nat.digitChar := by
  rw [hexDigits_succ (by decide), hexDigits_succ (by decide), hexDigits_succ (by decide),
    hexDigits_of_lt (by omega)]
  simp [Nat.div_div_eq_div_mul]

end Text

namespace Json

theorem hexValue?_digitChar : ∀ n < 16, hexValue? (Nat.digitChar n) = some n := by
  decide

theorem code?_hexDigits {n : Nat} (hn : n < 0x10000) (rest : List Char) :
    code? (Text.hexDigits 4 n ++ rest) = some (n, rest) := by
  rw [Text.hexDigits_four hn]
  simp only [List.map_cons, List.map_nil, List.cons_append, List.nil_append, code?,
    hexValue?_digitChar (n / 0x1000) (by omega), hexValue?_digitChar (n / 0x100 % 16) (by omega),
    hexValue?_digitChar (n / 16 % 16) (by omega), hexValue?_digitChar (n % 16) (by omega),
    Option.bind_eq_bind, Option.bind_some, Option.pure_def, Option.some.injEq, Prod.mk.injEq,
    and_true]
  omega

theorem toNat_cases (c : Char) :
    c.toNat < 0xD800 ∨ 0xDFFF < c.toNat ∧ c.toNat < 0x110000 := c.valid

theorem characterOf_toNat {c : Char} (hc : c.toNat < 0x10000) (rest : List Char) :
    characterOf c.toNat rest = (c, rest) := by
  have hvalid := toNat_cases c
  rw [characterOf.eq_def, if_neg (by omega), if_neg (by omega), Char.ofNat_toNat]

/-- Of a pair of codes the first one announces the second one. -/
theorem characterOf_of_code? {high low : Nat} {cs rest : List Char}
    (hhigh : 0xD800 ≤ high ∧ high < 0xDC00) (hlow : 0xDC00 ≤ low ∧ low < 0xE000)
    (hcode : code? cs = some (low, rest)) :
    characterOf high ('\\' :: 'u' :: cs) =
      (Char.ofNat (0x10000 + (high - 0xD800) * 0x400 + (low - 0xDC00)), rest) := by
  simp only [characterOf, if_pos hhigh, hcode, if_pos hlow]

/-- The codes of the two halves of a character beyond the first plane. -/
def highCode (c : Char) : Nat := 0xD800 + (c.toNat - 0x10000) / 0x400

def lowCode (c : Char) : Nat := 0xDC00 + (c.toNat - 0x10000) % 0x400

theorem lowCode_lt (c : Char) : lowCode c < 0x10000 := by
  rw [lowCode]
  omega

theorem highCode_lt (c : Char) : highCode c < 0x10000 := by
  have hvalid := toNat_cases c
  rw [highCode]
  omega

theorem characterOf_highCode {c : Char} (hc : ¬c.toNat < 0x10000) (rest : List Char) :
    characterOf (highCode c) (unit (lowCode c) ++ rest) = (c, rest) := by
  have hvalid := toNat_cases c
  have hhigh : 0xD800 ≤ highCode c ∧ highCode c < 0xDC00 := by
    rw [highCode]
    omega
  have hlow : 0xDC00 ≤ lowCode c ∧ lowCode c < 0xE000 := by
    rw [lowCode]
    omega
  have hboth : 0x10000 + (highCode c - 0xD800) * 0x400 + (lowCode c - 0xDC00) = c.toNat := by
    rw [highCode, lowCode]
    omega
  rw [unit, List.cons_append, List.cons_append,
    characterOf_of_code? hhigh hlow (code?_hexDigits (lowCode_lt c) rest), hboth, Char.ofNat_toNat]

theorem unit_append_ne_nil (n : Nat) (rest : List Char) : unit n ++ rest ≠ [] :=
  List.cons_ne_nil _ _

/-- A code is read as one character, together with the second code that it may announce. -/
theorem string_unit (opened : List Char) (fuel : Nat) {n : Nat} (hn : n < 0x10000)
    {rest : List Char} (hrest : rest ≠ []) (read : List Char) :
    string opened (fuel + 1) (unit n ++ rest) read =
      string opened fuel (characterOf n rest).2 ((characterOf n rest).1 :: read) := by
  obtain ⟨d, rest, rfl⟩ := List.exists_cons_of_ne_nil hrest
  simp only [unit, List.cons_append, string, code?_hexDigits hn]
  rfl

/-- The four ways in which a character is written inside quotes: by a name, as it is, by its code, and
    by a pair of codes. -/
inductive Escaped (c : Char) : List Char → Prop where
  | named {name : Char} (hname : escaped? name = some c) : Escaped c ['\\', name]
  | plain (hquote : c ≠ '"') (hbackslash : c ≠ '\\') (hplain : 0x20 ≤ c.toNat ∧ c.toNat < 0x7F) :
      Escaped c [c]
  | coded (hc : c.toNat < 0x10000) : Escaped c (unit c.toNat)
  | paired (hc : ¬c.toNat < 0x10000) : Escaped c (unit (highCode c) ++ unit (lowCode c))

theorem escaped_escape (c : Char) : Escaped c (escape c) := by
  rw [escape]
  split_ifs with hquote hbackslash hfeed hreturn htab hback hform hplain hc
  · subst hquote
    exact .named rfl
  · subst hbackslash
    exact .named rfl
  · subst hfeed
    exact .named rfl
  · subst hreturn
    exact .named rfl
  · subst htab
    exact .named rfl
  · subst hback
    exact .named rfl
  · subst hform
    exact .named rfl
  · exact .plain hquote hbackslash hplain
  · exact .coded hc
  · exact .paired hc

theorem escape_ne_nil (c : Char) : escape c ≠ [] := by
  have hescaped := escaped_escape c
  generalize escape c = cs at hescaped ⊢
  cases hescaped with
  | named _ => exact List.cons_ne_nil _ _
  | plain _ _ _ => exact List.cons_ne_nil _ _
  | coded _ => exact List.cons_ne_nil _ _
  | paired _ => exact unit_append_ne_nil _ _

/-- The escape of a character is read as that character, wherever the string goes on. -/
theorem string_escape (opened : List Char) (fuel : Nat) (c : Char) {rest : List Char}
    (hrest : rest ≠ []) (read : List Char) :
    string opened (fuel + 1) (escape c ++ rest) read = string opened fuel rest (c :: read) := by
  have hescaped := escaped_escape c
  generalize escape c = cs at hescaped ⊢
  cases hescaped with
  | @named name hname =>
    have hcode : name ≠ 'u' := by
      rintro rfl
      cases hname
    simp [string, hname]
  | plain hquote hbackslash hplain =>
    rw [List.singleton_append, string.eq_def]
    simp only [if_neg hquote, if_neg hbackslash, if_neg (Nat.not_lt.mpr hplain.1)]
  | coded hc => rw [string_unit opened fuel hc hrest, characterOf_toNat hc]
  | paired hc =>
    rw [List.append_assoc, string_unit opened fuel (highCode_lt c) (unit_append_ne_nil _ _),
      characterOf_highCode hc]

/-- A string with its escapes is read up to its closing quote, and no further. -/
theorem string_flatMap_escape (opened rest : List Char) {cs : List Char} {fuel : Nat}
    (hfuel : cs.length < fuel) (read : List Char) :
    string opened fuel (cs.flatMap escape ++ '"' :: rest) read =
      .ok (String.ofList (read.reverse ++ cs), rest) := by
  induction cs generalizing fuel read with
  | nil =>
    obtain ⟨fuel, rfl⟩ := Nat.exists_eq_add_of_lt hfuel
    simp [string]
  | cons c cs ih =>
    obtain ⟨fuel, rfl⟩ : ∃ less, fuel = less + 1 := ⟨fuel - 1, by simp at hfuel; omega⟩
    rw [List.flatMap_cons, List.append_assoc, string_escape opened fuel c (by simp),
      ih (by simpa using hfuel)]
    simp

end Json

end NetAtlas
