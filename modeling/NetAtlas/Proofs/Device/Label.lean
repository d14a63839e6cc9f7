import NetAtlas.Device.Label
import NetAtlas.Proofs.Decimal.Numeral

/-!
What a label spells. A value spells a label as a code, as a numeral of a code or as its name, and
what spells nothing is read as unknown, but for one kind of text: digits that form no numeral.
-/

namespace NetAtlas

/-- A text of digits one of which has no value. -/
def isMockNumeral (stem : String) : Value → Bool
  | .text s =>
    Text.allDigits (labelToken stem s) && !(labelToken stem s).all Text.isDecimalDigit
  | _ => false

section Label

variable {α : Type} (stem : String) (ofCode : Int → α) (ofName? : String → Option α)

/-- The ways to write a label. -/
inductive Spells : Value → α → Prop
  | code (n : Int) : Spells (.int n) (ofCode n)
  | numeral {s : String} (hdigits : Text.allDigits (labelToken stem s) = true)
      (hvalues : (labelToken stem s).all Text.isDecimalDigit = true) :
      Spells (.text s) (ofCode (Decimal.ofDigits (Decimal.digitValues (labelToken stem s))))
  | name {s : String} {a : α} (hletters : Text.allDigits (labelToken stem s) = false)
      (hname : ofName? (String.ofList (labelToken stem s)) = some a) : Spells (.text s) a

/-- What a value says about a label: what it spells, and unknown if it spells nothing. -/
def Denotes (unknown : α) (v : Value) (a : α) : Prop :=
  Spells stem ofCode ofName? v a ∨ (a = unknown ∧ ∀ b, ¬ Spells stem ofCode ofName? v b)

variable {stem ofCode ofName?} {unknown : α}

theorem Spells.unique {v : Value} {a b : α} (ha : Spells stem ofCode ofName? v a)
    (hb : Spells stem ofCode ofName? v b) : a = b := by
  cases ha with
  | code n =>
    cases hb
    rfl
  | numeral hdigits _ =>
    cases hb with
    | numeral => rfl
    | name hletters => simp [hdigits] at hletters
  | name hletters hname =>
    cases hb with
    | numeral hdigits => simp [hdigits] at hletters
    | name _ hname' =>
      rw [hname] at hname'
      exact Option.some.inj hname'

theorem Denotes.of_spells {v : Value} {a : α} (h : Spells stem ofCode ofName? v a) (b : α) :
    Denotes stem ofCode ofName? unknown v b ↔ a = b := by
  constructor
  · rintro (hb | ⟨_, hnone⟩)
    · exact h.unique hb
    · exact absurd h (hnone a)
  · rintro rfl
    exact .inl h

theorem Denotes.of_silent {v : Value} (h : ∀ a, ¬ Spells stem ofCode ofName? v a) (b : α) :
    Denotes stem ofCode ofName? unknown v b ↔ unknown = b := by
  constructor
  · rintro (hb | ⟨rfl, _⟩)
    · exact absurd hb (h b)
    · rfl
  · rintro rfl
    exact .inr ⟨rfl, h⟩

theorem readLabel_text_of_digits {s : String}
    (hdigits : Text.allDigits (labelToken stem s) = true) :
    readLabel stem ofCode ofName? unknown (.text s) =
      if (labelToken stem s).all Text.isDecimalDigit then
        .ok (ofCode (Decimal.ofDigits (Decimal.digitValues (labelToken stem s))))
      else .error (.notAnInteger (String.ofList (labelToken stem s))) := by
  have hread := Decimal.readInt?_of_allDigits (s := String.ofList (labelToken stem s))
    (by rwa [String.toList_ofList])
  rw [String.toList_ofList] at hread
  simp only [readLabel, String.toList_ofList, hdigits, ↓reduceIte, Value.toInt, hread]
  cases (labelToken stem s).all Text.isDecimalDigit <;> rfl

/-- A character that names of labels are written in. -/
def isNameChar (c : Char) : Bool := c = '_' || (0x61 ≤ c.toNat && c.toNat ≤ 0x7A)

theorem isNameChar_cases {c : Char} (h : isNameChar c = true) :
    c = '_' ∨ 0x61 ≤ c.toNat ∧ c.toNat ≤ 0x7A := by
  simpa [isNameChar] using h

theorem isBlank_of_isNameChar {c : Char} (h : isNameChar c = true) : Text.isBlank c = false := by
  rcases isNameChar_cases h with rfl | hletter
  · decide
  · exact Text.isBlank_of_asciiLetter (by simp [Text.asciiLetters, Text.Ranges.contains, hletter])

theorem isDigit_of_isNameChar {c : Char} (h : isNameChar c = true) : Text.isDigit c = false := by
  rcases isNameChar_cases h with rfl | hletter
  · decide
  · exact Text.isDigit_of_asciiLetter (by simp [Text.asciiLetters, Text.Ranges.contains, hletter])

theorem isLower_of_isNameChar {c : Char} (h : isNameChar c = true) : Text.IsLower c := by
  rcases isNameChar_cases h with rfl | hletter
  · exact Text.isLower_of_ascii (by decide) (by decide)
  · exact Text.isLower_of_ascii (by omega) (by omega)

section Name

variable {name : String} (hname : ∀ c ∈ name.toList, isNameChar c = true)
include hname

theorem labelToken_of_name (hstem : stem.toList.isPrefixOf name.toList = false) :
    labelToken stem name = name.toList := by
  have htrimmed : Text.Trimmed name.toList :=
    ⟨fun c hc => isBlank_of_isNameChar (hname c (List.mem_of_head? hc)),
      fun c hc => isBlank_of_isNameChar (hname c (List.mem_of_getLast? hc))⟩
  have hlower : Text.lower name.toList = name.toList :=
    Text.lowerFrom_of_isLower fun c hc => isLower_of_isNameChar (hname c hc)
  have hsame : ∀ c ∈ name.toList, (if c = '-' ∨ c = ' ' then '_' else c) = c := fun c hc => by
    refine if_neg ?_
    rintro (rfl | rfl) <;> exact absurd (hname _ hc) (by decide)
  simp only [labelToken, htrimmed.trim_eq, hlower, List.map_congr_left hsame, List.map_id', hstem,
    Bool.false_eq_true, ↓reduceIte]

theorem allDigits_of_name : Text.allDigits name.toList = false := by
  cases hchars : name.toList with
  | nil => rfl
  | cons c cs =>
    have hc : Text.isDigit c = false :=
      isDigit_of_isNameChar (hname c (by rw [hchars]; exact List.mem_cons_self))
    simp [Text.allDigits, hc]

/-- A name is read as what it names. -/
theorem readLabel_of_name {a : α} (hstem : stem.toList.isPrefixOf name.toList = false)
    (ha : ofName? name = some a) : readLabel stem ofCode ofName? unknown (.text name) = .ok a := by
  simp only [readLabel, labelToken_of_name hname hstem, String.ofList_toList,
    allDigits_of_name hname, Bool.false_eq_true, ↓reduceIte, ha, Option.getD_some]

end Name

theorem readLabel_of_isMockNumeral {v : Value} (h : isMockNumeral stem v = true) :
    ∃ token, readLabel stem ofCode ofName? unknown v = .error (.notAnInteger token) := by
  rw [isMockNumeral.eq_def] at h
  split at h
  · rename_i s
    rw [Bool.and_eq_true, Bool.not_eq_true'] at h
    refine ⟨String.ofList (labelToken stem s), ?_⟩
    rw [readLabel_text_of_digits h.1, h.2, if_neg (by simp)]
  · cases h

/-- A mock numeral spells nothing. -/
theorem Denotes.of_isMockNumeral {v : Value} (h : isMockNumeral stem v = true) :
    Denotes stem ofCode ofName? unknown v unknown := by
  rw [isMockNumeral.eq_def] at h
  split at h
  · rw [Bool.and_eq_true, Bool.not_eq_true'] at h
    refine .inr ⟨rfl, ?_⟩
    rintro b (_ | ⟨_, hvalues⟩ | ⟨hletters, _⟩)
    · simp [h.2] at hvalues
    · simp [h.1] at hletters
  · cases h

/-- Reading a label fails on mock numerals only, and gives what the value says otherwise. -/
theorem readLabel_eq_ok_iff {v : Value} (h : isMockNumeral stem v = false) (a : α) :
    readLabel stem ofCode ofName? unknown v = .ok a ↔
      Denotes stem ofCode ofName? unknown v a := by
  cases v with
  | list items => rw [Denotes.of_silent (by rintro b ⟨⟩)]; simp [readLabel]
  | mapping entries => rw [Denotes.of_silent (by rintro b ⟨⟩)]; simp [readLabel]
  | atom part =>
    cases part with
    | int n => rw [Denotes.of_spells (.code n)]; simp [readLabel]
    | text s =>
      cases hdigits : Text.allDigits (labelToken stem s) with
      | true =>
        have hvalues : (labelToken stem s).all Text.isDecimalDigit = true := by
          simpa [isMockNumeral, hdigits] using h
        rw [readLabel_text_of_digits hdigits, if_pos hvalues,
          Denotes.of_spells (.numeral hdigits hvalues), Except.ok.injEq]
      | false =>
        have hread : readLabel stem ofCode ofName? unknown (.text s) =
            .ok ((ofName? (String.ofList (labelToken stem s))).getD unknown) := by
          simp [readLabel, hdigits]
        rw [hread, Except.ok.injEq]
        cases hname : ofName? (String.ofList (labelToken stem s)) with
        | some b => rw [Denotes.of_spells (.name hdigits hname), Option.getD_some]
        | none =>
          rw [Denotes.of_silent, Option.getD_none]
          rintro b (_ | ⟨hdigits', _⟩ | ⟨_, hname'⟩)
          · simp [hdigits] at hdigits'
          · simp [hname] at hname'
    | _ => rw [Denotes.of_silent (by rintro b ⟨⟩)]; simp [readLabel]

theorem exists_readLabel {v : Value} (h : isMockNumeral stem v = false) :
    ∃ a, readLabel stem ofCode ofName? unknown v = .ok a ∧
      Denotes stem ofCode ofName? unknown v a := by
  by_cases hspells : ∃ a, Spells stem ofCode ofName? v a
  · obtain ⟨a, ha⟩ := hspells
    exact ⟨a, (readLabel_eq_ok_iff h a).mpr (.inl ha), .inl ha⟩
  · have hnone : Denotes stem ofCode ofName? unknown v unknown :=
      .inr ⟨rfl, fun a ha => hspells ⟨a, ha⟩⟩
    exact ⟨unknown, (readLabel_eq_ok_iff h unknown).mpr hnone, hnone⟩

end Label

namespace Role

/-- A text of digits in the place of a role that is no numeral. -/
def isMock (v : Value) : Bool := isMockNumeral "device_type_" v

/-- What a value says about the role. -/
def Denoted (v : Value) (r : Role) : Prop := Denotes "device_type_" ofCode ofName? .unknown v r

variable {v : Value}

theorem exists_read (h : isMock v = false) : ∃ r, read v = .ok r ∧ Denoted v r := exists_readLabel h

theorem read_of_isMock (h : isMock v = true) : ∃ token, read v = .error (.notAnInteger token) :=
  readLabel_of_isMockNumeral h

end Role

namespace Status

/-- A text of digits in the place of a state that is no numeral. -/
def isMock (v : Value) : Bool := isMockNumeral "device_status_" v

/-- What a value says about the state. -/
def Denoted (v : Value) (t : Status) : Prop :=
  Denotes "device_status_" ofCode ofName? .unknown v t

variable {v : Value}

theorem exists_read (h : isMock v = false) : ∃ t, read v = .ok t ∧ Denoted v t := exists_readLabel h

theorem read_of_isMock (h : isMock v = true) : ∃ token, read v = .error (.notAnInteger token) :=
  readLabel_of_isMockNumeral h

end Status

end NetAtlas
