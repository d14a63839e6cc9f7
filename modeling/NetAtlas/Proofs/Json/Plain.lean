import Mathlib.Data.List.TakeWhile
import NetAtlas.Json.Reader
import NetAtlas.Json.Writer

/-!
Words and numbers in JSON. What is read of them does not depend on the text that comes after, if it
starts with one of the characters that stand after a value, and integers are read as they were
written.
-/

namespace NetAtlas.Json

/-- The characters that stand after a value, between its brackets and on the lines around it. -/
def isStop (c : Char) : Bool := c = ',' || c = ']' || c = '\x7d' || c = '\n'

/-- A text that a value may stand in front of. -/
def Stops (rest : List Char) : Prop := ∀ c, rest.head? = some c → isStop c = true

theorem stops_nil : Stops [] := by simp [Stops]

theorem stops_cons {c : Char} (hc : isStop c = true) (rest : List Char) : Stops (c :: rest) := by
  simpa [Stops] using hc

/-- A scanner takes the same from the front of a text, whatever comes after it. -/
def Steady {α : Type} (scan : List Char → α × List Char) : Prop :=
  ∀ cs rest, Stops rest → scan (cs ++ rest) = ((scan cs).1, (scan cs).2 ++ rest)

section Scanners

variable {rest : List Char} (hrest : Stops rest)

include hrest

theorem Stops.cases : rest = [] ∨ ∃ c cs, rest = c :: cs ∧ isStop c = true := by
  cases rest with
  | nil => exact .inl rfl
  | cons c cs => exact .inr ⟨c, cs, rfl, hrest c rfl⟩

/-- No stop is among the characters of a kind that none of them is of. -/
theorem Stops.takeWhile_eq_nil {p : Char → Bool} (hp : ∀ c, isStop c = true → p c = false) :
    rest.takeWhile p = [] := by
  obtain rfl | ⟨c, cs, rfl, hc⟩ := hrest.cases
  · rfl
  · simp [hp c hc]

theorem Stops.dropWhile_eq {p : Char → Bool} (hp : ∀ c, isStop c = true → p c = false) :
    rest.dropWhile p = rest := by
  obtain rfl | ⟨c, cs, rfl, hc⟩ := hrest.cases
  · rfl
  · simp [hp c hc]

end Scanners

theorem isStop_cases {c : Char} (hc : isStop c = true) : c = ',' ∨ c = ']' ∨ c = '\x7d' ∨ c = '\n' := by
  simpa [isStop, or_assoc] using hc

theorem isAsciiDigit_of_isStop (c : Char) (hc : isStop c = true) : isAsciiDigit c = false := by
  rcases isStop_cases hc with rfl | rfl | rfl | rfl <;> decide

theorem steady_asciiDigits : Steady asciiDigits := by
  intro cs rest hrest
  have htake := hrest.takeWhile_eq_nil isAsciiDigit_of_isStop
  have hdrop := hrest.dropWhile_eq isAsciiDigit_of_isStop
  induction cs with
  | nil => simp [asciiDigits, htake, hdrop]
  | cons c cs ih =>
    simp only [asciiDigits, Prod.mk.injEq] at ih
    by_cases hc : isAsciiDigit c = true
    · simp [asciiDigits, hc, ih.1, ih.2]
    · simp [asciiDigits, hc]

theorem steady_wholeDigits : Steady wholeDigits := by
  intro cs rest hrest
  cases cs with
  | nil =>
    obtain rfl | ⟨c, cs, rfl, hc⟩ := hrest.cases
    · rfl
    · have hzero : c ≠ '0' := by rintro rfl; exact absurd hc (by decide)
      simp [wholeDigits, asciiDigits, hzero, isAsciiDigit_of_isStop c hc]
  | cons c cs =>
    by_cases hzero : c = '0'
    · subst hzero; rfl
    · simpa [wholeDigits, hzero] using steady_asciiDigits (c :: cs) rest hrest

theorem steady_signOf : Steady Decimal.signOf := by
  intro cs rest hrest
  cases cs with
  | nil =>
    obtain rfl | ⟨c, cs, rfl, hc⟩ := hrest.cases
    · rfl
    · rcases isStop_cases hc with rfl | rfl | rfl | rfl <;> rfl
  | cons c cs =>
    by_cases hminus : c = '-'
    · subst hminus; rfl
    · by_cases hplus : c = '+'
      · subst hplus; rfl
      · simp [Decimal.signOf, hminus, hplus]

theorem steady_fractionDigits : Steady fractionDigits := by
  intro cs rest hrest
  cases cs with
  | nil =>
    obtain rfl | ⟨c, cs, rfl, hc⟩ := hrest.cases
    · rfl
    · rcases isStop_cases hc with rfl | rfl | rfl | rfl <;> rfl
  | cons c cs =>
    by_cases hpoint : c = '.'
    · subst hpoint
      have hdigits := steady_asciiDigits cs rest hrest
      simp only [List.cons_append, fractionDigits, hdigits]
      obtain ⟨_ | ⟨d, ds⟩, after⟩ := asciiDigits cs <;> rfl
    · simp [fractionDigits, hpoint]

theorem steady_exponent : Steady exponent := by
  intro cs rest hrest
  cases cs with
  | nil =>
    obtain rfl | ⟨c, cs, rfl, hc⟩ := hrest.cases
    · rfl
    · rcases isStop_cases hc with rfl | rfl | rfl | rfl <;> rfl
  | cons c cs =>
    by_cases hmark : c = 'e' ∨ c = 'E'
    · have hsign := steady_signOf cs rest hrest
      have hdigits := steady_asciiDigits (Decimal.signOf cs).2 rest hrest
      simp only [List.cons_append, exponent, if_pos hmark, hsign, hdigits]
      obtain ⟨_ | ⟨d, ds⟩, after⟩ := asciiDigits (Decimal.signOf cs).2 <;> rfl
    · simp [exponent, hmark]

/-- The sign of a number, which only a minus can be. -/
def minusOf (cs : List Char) : Bool × List Char :=
  match cs with
  | '-' :: rest => (true, rest)
  | _ => (false, cs)

theorem steady_minusOf : Steady minusOf := by
  intro cs rest hrest
  cases cs with
  | nil =>
    obtain rfl | ⟨c, cs, rfl, hc⟩ := hrest.cases
    · rfl
    · rcases isStop_cases hc with rfl | rfl | rfl | rfl <;> rfl
  | cons c cs =>
    by_cases hminus : c = '-'
    · subst hminus; rfl
    · simp [minusOf, hminus]

theorem number_eq (cs : List Char) :
    number cs =
      match wholeDigits (minusOf cs).2 with
      | ([], _) => refuse .noValue cs
      | (whole, rest) =>
        let fraction := fractionDigits rest
        let power := exponent fraction.2
        if fraction.1.isEmpty && power.1.isNone then
          .ok (.int (if (minusOf cs).1 then -(Decimal.ofDigits whole : Int)
            else Decimal.ofDigits whole), power.2)
        else
          .ok (.float (Decimal.scaled (minusOf cs).1 (Decimal.ofDigits (whole ++ fraction.1))
            (power.1.getD 0 - fraction.1.length)), power.2) := by
  rfl

/-- A number that a text starts with stays the same in front of more text. -/
theorem number_append {cs rest after : List Char} {v : Value} (hrest : Stops rest)
    (hread : number cs = .ok (v, after)) : number (cs ++ rest) = .ok (v, after ++ rest) := by
  rw [number_eq] at hread ⊢
  simp only [steady_minusOf cs rest hrest, steady_wholeDigits _ rest hrest]
  generalize wholeDigits (minusOf cs).2 = scanned at hread ⊢
  obtain ⟨_ | ⟨d, ds⟩, body⟩ := scanned
  · cases hread
  · simp only [steady_fractionDigits body rest hrest, steady_exponent _ rest hrest] at hread ⊢
    split_ifs at hread ⊢ with hint
    all_goals
      cases hread
      rfl

theorem isStop_of_mem_words : ∀ word ∈ words, ∀ c ∈ word.1, isStop c = false := by
  simp [words, isStop]

theorem isPrefixOf_append {word : List Char × Value} (hword : word ∈ words) (cs : List Char)
    {rest : List Char} (hrest : Stops rest) :
    word.1.isPrefixOf (cs ++ rest) = word.1.isPrefixOf cs := by
  rw [Bool.eq_iff_iff, List.isPrefixOf_iff_prefix, List.isPrefixOf_iff_prefix]
  refine ⟨fun hfront => ?_, fun hfront => hfront.trans (List.prefix_append cs rest)⟩
  obtain rfl | ⟨c, after, rfl, hc⟩ := hrest.cases
  · rwa [List.append_nil] at hfront
  · by_contra hnot
    have hlonger : cs.length < word.1.length := by
      by_contra hshort
      exact hnot (List.prefix_of_prefix_length_le hfront (List.prefix_append cs _) (by omega))
    have hget : word.1[cs.length] = c := by
      rw [hfront.getElem hlonger]
      simp
    have hmem := List.getElem_mem hlonger
    rw [hget] at hmem
    exact absurd hc (by simp [isStop_of_mem_words word hword c hmem])

/-- The word that a text starts with. -/
def wordOf? (cs : List Char) : Option (List Char × Value) :=
  words.find? fun word => word.1.isPrefixOf cs

theorem plain_of_wordOf?_none {cs : List Char} (h : wordOf? cs = none) : plain cs = number cs := by
  rw [plain]
  split
  · rename_i hword
    cases h.symm.trans hword
  · rfl

theorem plain_of_wordOf?_some {cs : List Char} {found : List Char × Value}
    (h : wordOf? cs = some found) : plain cs = .ok (found.2, cs.drop found.1.length) := by
  rw [plain]
  split
  · rename_i hword
    obtain rfl := Option.some.inj (h.symm.trans hword)
    rfl
  · rename_i hword
    cases h.symm.trans hword

/-- A word or a number that makes up a whole text stays the same in front of more text. -/
theorem plain_append {cs rest : List Char} {v : Value} (hrest : Stops rest)
    (hread : plain cs = .ok (v, [])) : plain (cs ++ rest) = .ok (v, rest) := by
  have hfind : wordOf? (cs ++ rest) = wordOf? cs := by
    rw [wordOf?, wordOf?, ← List.head?_filter, ← List.head?_filter,
      List.filter_congr fun word hword => isPrefixOf_append hword cs hrest]
  cases hword : wordOf? cs with
  | none =>
    rw [plain_of_wordOf?_none hword] at hread
    rw [plain_of_wordOf?_none (hfind.trans hword)]
    exact number_append hrest hread
  | some found =>
    rw [plain_of_wordOf?_some hword] at hread
    rw [plain_of_wordOf?_some (hfind.trans hword)]
    obtain ⟨tail, rfl⟩ : found.1 <+: cs := by
      simpa [List.isPrefixOf_iff_prefix] using List.find?_some hword
    simp only [Except.ok.injEq, Prod.mk.injEq, List.drop_left] at hread
    obtain ⟨rfl, rfl⟩ := hread
    simp

theorem isAsciiDigit_of_mem_toDigits {n : Nat} {c : Char} (hc : c ∈ Nat.toDigits 10 n) :
    isAsciiDigit c = true := by
  have hdigit := Nat.isDigit_of_mem_toDigits (by decide) (by decide) hc
  simpa [isAsciiDigit, Char.isDigit, Char.le_def] using hdigit

/-- The digits of a number start with a zero only for zero itself. -/
theorem head_toDigits {n : Nat} (hn : n ≠ 0) : (Nat.toDigits 10 n).head? ≠ some '0' := by
  induction n using Nat.strongRecOn with
  | _ n ih =>
    by_cases hlt : n < 10
    · rw [Nat.toDigits_of_lt_base hlt]
      have hdigit : ∀ d < 10, d ≠ 0 → [Nat.digitChar d].head? ≠ some '0' := by decide
      exact hdigit n hlt hn
    · rw [Nat.toDigits_of_base_le (by decide) (by omega), List.head?_append]
      have hhead := ih (n / 10) (by omega) (by omega)
      cases hdigits : (Nat.toDigits 10 (n / 10)).head? with
      | none => exact absurd (List.head?_eq_none_iff.mp hdigits) Nat.toDigits_ne_nil
      | some c => simpa [hdigits] using hhead

theorem ofDigits_map (cs : List Char) :
    Decimal.ofDigits (cs.map fun c => c.toNat - 48) = Nat.ofDigitChars 10 cs 0 := by
  rw [Decimal.ofDigits, List.foldl_map]
  rfl

theorem wholeDigits_toDigits (n : Nat) :
    wholeDigits (Nat.toDigits 10 n) = ((Nat.toDigits 10 n).map fun c => c.toNat - 48, []) := by
  by_cases hn : n = 0
  · subst hn
    decide
  · have hall : asciiDigits (Nat.toDigits 10 n) =
        ((Nat.toDigits 10 n).map fun c => c.toNat - 48, []) := by
      rw [asciiDigits, List.takeWhile_eq_self_iff.mpr fun c => isAsciiDigit_of_mem_toDigits,
        List.dropWhile_eq_nil_iff.mpr fun c => isAsciiDigit_of_mem_toDigits]
    rw [wholeDigits.eq_def]
    split
    · rename_i heq
      exact absurd (by rw [heq]; rfl) (head_toDigits hn)
    · exact hall

/-- No word starts with a digit, nor with a digit after a minus. -/
theorem plain_eq_number {c : Char} (hc : isAsciiDigit c = true) (cs : List Char) :
    plain (c :: cs) = number (c :: cs) ∧ plain ('-' :: c :: cs) = number ('-' :: c :: cs) := by
  have hother : ∀ d, isAsciiDigit d = false → d ≠ c := by
    rintro d hd rfl
    exact absurd hc (by simp [hd])
  have hnone : wordOf? (c :: cs) = none ∧ wordOf? ('-' :: c :: cs) = none := by
    simp [wordOf?, words, hother 'n' (by decide), hother 't' (by decide), hother 'f' (by decide),
      hother 'N' (by decide), hother 'I' (by decide), hother '-' (by decide)]
  exact ⟨plain_of_wordOf?_none hnone.1, plain_of_wordOf?_none hnone.2⟩

/-- An integer is read as it was written, without a fraction and without an exponent. -/
theorem plain_toString (n : Int) : plain (toString n).toList = .ok (.int n, []) := by
  have hdigits : ∀ k : Nat, ∃ c cs, Nat.toDigits 10 k = c :: cs ∧ isAsciiDigit c = true ∧
      number (c :: cs) = .ok (.int k, []) ∧
      number ('-' :: c :: cs) = .ok (.int (-(k : Int)), []) := by
    intro k
    obtain ⟨c, cs, hcs⟩ := List.exists_cons_of_ne_nil (@Nat.toDigits_ne_nil k 10)
    have hc : isAsciiDigit c = true := isAsciiDigit_of_mem_toDigits (hcs ▸ List.mem_cons_self)
    have hminus : c ≠ '-' := by rintro rfl; exact absurd hc (by decide)
    have hwhole := wholeDigits_toDigits k
    have hvalue : Decimal.ofDigits ((c :: cs).map fun c => c.toNat - 48) = k := by
      rw [ofDigits_map, ← hcs, Nat.ofDigitChars_toDigits (by decide) (by decide)]
    rw [hcs] at hwhole
    have hplus : minusOf (c :: cs) = (false, c :: cs) := by simp [minusOf, hminus]
    refine ⟨c, cs, hcs, hc, ?_, ?_⟩
    · rw [number_eq, hplus, hwhole]
      simp [fractionDigits, exponent, ← hvalue]
    · rw [number_eq, minusOf, hwhole]
      simp [fractionDigits, exponent, ← hvalue]
  rw [Int.toString_eq_repr, Int.repr_eq_if]
  split_ifs with hn
  · obtain ⟨c, cs, hcs, hc, hread, -⟩ := hdigits n.toNat
    rw [Nat.toList_repr, hcs, (plain_eq_number hc cs).1, hread, Int.toNat_of_nonneg hn]
  · obtain ⟨c, cs, hcs, hc, -, hread⟩ := hdigits (-n).toNat
    rw [String.toList_append, Nat.toList_repr, hcs]
    change plain ('-' :: c :: cs) = _
    rw [(plain_eq_number hc cs).2, hread, Int.toNat_of_nonneg (by omega), Int.neg_neg]

/-- The characters that words and numbers start with. -/
def opensPlain (c : Char) : Bool := isAsciiDigit c || "-ntfNI".toList.contains c

theorem isAsciiDigit_of_number {c : Char} {cs : List Char} {r : Value × List Char}
    (hread : number (c :: cs) = .ok r) : isAsciiDigit c = true ∨ c = '-' := by
  by_contra hnot
  rw [not_or] at hnot
  have hzero : c ≠ '0' := by rintro rfl; exact hnot.1 (by decide)
  have hwhole : wholeDigits (minusOf (c :: cs)).2 = ([], c :: cs) := by
    simp [minusOf, hnot.2, wholeDigits, hzero, asciiDigits, hnot.1]
  rw [number_eq, hwhole] at hread
  cases hread

theorem opensPlain_of_mem_words : ∀ word ∈ words, ∃ c cs, word.1 = c :: cs ∧ opensPlain c = true := by
  simp only [words, List.forall_mem_cons, String.reduceToList, List.cons.injEq]
  exact ⟨⟨_, _, ⟨rfl, rfl⟩, by decide⟩, ⟨_, _, ⟨rfl, rfl⟩, by decide⟩, ⟨_, _, ⟨rfl, rfl⟩, by decide⟩,
    ⟨_, _, ⟨rfl, rfl⟩, by decide⟩, ⟨_, _, ⟨rfl, rfl⟩, by decide⟩, ⟨_, _, ⟨rfl, rfl⟩, by decide⟩,
    by simp⟩

theorem opensPlain_of_plain {cs : List Char} {r : Value × List Char} (hread : plain cs = .ok r) :
    ∃ c tail, cs = c :: tail ∧ opensPlain c = true := by
  cases hword : wordOf? cs with
  | none =>
    rw [plain_of_wordOf?_none hword] at hread
    cases cs with
    | nil => cases hread
    | cons c tail =>
      refine ⟨c, tail, rfl, ?_⟩
      obtain hc | rfl := isAsciiDigit_of_number hread
      · simp [opensPlain, hc]
      · decide
  | some found =>
    obtain ⟨c, tail, hfound, hc⟩ := opensPlain_of_mem_words found (List.mem_of_find?_eq_some hword)
    obtain ⟨more, rfl⟩ : found.1 <+: cs := by
      simpa [List.isPrefixOf_iff_prefix] using List.find?_some hword
    exact ⟨c, tail ++ more, by rw [hfound, List.cons_append], hc⟩

end NetAtlas.Json
