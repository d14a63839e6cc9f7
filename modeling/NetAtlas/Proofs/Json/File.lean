import NetAtlas.Proofs.Json.RoundTrip
import NetAtlas.Proofs.Text.Ascii

/-!
JSON files. What is written is printable ASCII on lines that end in a line feed, so the file of a
legible document is read back as that document.
-/

namespace NetAtlas.Json

/-- The characters that documents are written in. -/
def isWritten (c : Char) : Bool := c = '\n' || (decide (0x20 ≤ c.toNat) && decide (c.toNat < 0x7F))

/-- All of a text is written in these characters. -/
def Written (cs : List Char) : Prop := ∀ c ∈ cs, isWritten c = true

theorem Written.append {as bs : List Char} (has : Written as) (hbs : Written bs) :
    Written (as ++ bs) := by
  intro c hc
  exact (List.mem_append.mp hc).elim (has c) (hbs c)

theorem Written.cons {c : Char} {cs : List Char} (hc : isWritten c = true) (hcs : Written cs) :
    Written (c :: cs) := by
  intro d hd
  obtain rfl | hd := List.mem_cons.mp hd
  · exact hc
  · exact hcs d hd

theorem Written.mono {as bs : List Char} (hbs : Written bs) (hsub : as ⊆ bs) : Written as :=
  fun c hc => hbs c (hsub hc)

theorem written_replicate {c : Char} (hc : isWritten c = true) (n : Nat) :
    Written (List.replicate n c) := by
  intro d hd
  rwa [List.eq_of_mem_replicate hd]

theorem Written.ascii {cs : List Char} (h : Written cs) : Text.Ascii cs := by
  intro c hc
  have hwritten := h c hc
  simp only [isWritten, Bool.or_eq_true, decide_eq_true_eq, Bool.and_eq_true] at hwritten
  obtain rfl | hwritten := hwritten
  · decide
  · omega

theorem isWritten_of_isDigit {c : Char} (hc : c.isDigit = true) : isWritten c = true := by
  have hdigit : 48 ≤ c.toNat ∧ c.toNat ≤ 57 := by
    simpa [Char.isDigit, Char.le_def, UInt32.le_iff_toNat_le] using hc
  simp only [isWritten, Bool.or_eq_true, decide_eq_true_eq, Bool.and_eq_true]
  omega

theorem written_toDigits (n : Nat) : Written (Nat.toDigits 10 n) := fun _ hc =>
  isWritten_of_isDigit (Nat.isDigit_of_mem_toDigits (by decide) (by decide) hc)

theorem isWritten_digitChar : ∀ n < 16, isWritten (Nat.digitChar n) = true := by
  decide

section Floats

open Decimal

theorem written_signed {cs : List Char} (h : Written cs) (negative : Bool) :
    Written (signed negative cs).toList := by
  rw [signed, String.toList_ofList]
  cases negative with
  | false => exact h
  | true => exact h.cons (by decide)

theorem dropTrailing_subset (c : Char) (cs : List Char) : dropTrailing c cs ⊆ cs := by
  intro d hd
  rw [dropTrailing, List.mem_reverse] at hd
  exact List.mem_reverse.mp ((List.dropWhile_sublist _).subset hd)

theorem written_padLeft (width n : Nat) : Written (padLeft width (digits n)) :=
  (written_replicate (by decide) _).append (written_toDigits n)

theorem written_exponentText (e : Int) : Written (exponentText e) := by
  refine Written.cons ?_ (written_padLeft 2 e.natAbs)
  split_ifs <;> decide

theorem written_pointAfterFirst {cs : List Char} (h : Written cs) : Written (pointAfterFirst cs) := by
  match cs with
  | [] => exact h
  | [c] => exact h
  | c :: d :: cs =>
    exact ((h.mono (List.subset_cons_self c _)).cons (by decide)).cons (h c List.mem_cons_self)

theorem written_special (kind : FloatKind) : Written (special kind).toList := by
  unfold special
  split <;> simp [Written, isWritten]

/-- Floats are written in digits, with a point or an exponent, or by their names. -/
theorem written_shortestText (x : Float) : Written (shortestText x).toList := by
  rw [shortestText]
  split
  · have hzero : Written ['0', '.', '0'] := by simp [Written, isWritten]
    rename_i d _
    have hdigits : Written (significant (shortest d).1 (shortest d).2).1 :=
      (written_toDigits _).mono (dropTrailing_subset '0' _)
    have hpoint : isWritten '.' = true := by decide
    have hzeros := fun n => written_replicate (show isWritten '0' = true by decide) n
    split
    · exact written_signed hzero _
    · simp only
      split_ifs
      · exact written_signed ((hdigits.append (hzeros _)).append (hzero.mono (by simp))) _
      · exact written_signed ((hdigits.mono (List.take_subset _ _)).append
          ((hdigits.mono (List.drop_subset _ _)).cons hpoint)) _
      · exact written_signed ((((hzeros _).append hdigits).cons hpoint).cons (by decide)) _
      · exact written_signed ((written_pointAfterFirst hdigits).append
          ((written_exponentText _).cons (by decide))) _
  · exact written_special _

theorem written_floatText (x : Float) : Written (floatText x).toList := by
  rw [floatText]
  split
  · exact written_shortestText x
  all_goals simp [Written, isWritten]

end Floats

theorem written_toString (n : Int) : Written (toString n).toList := by
  rw [Int.toString_eq_repr, Int.repr_eq_if]
  split_ifs
  · rw [Nat.toList_repr]
    exact written_toDigits _
  · rw [String.toList_append, Nat.toList_repr]
    exact (written_toDigits _).cons (show isWritten '-' = true by decide)

theorem written_unit {n : Nat} (hn : n < 0x10000) : Written (unit n) := by
  rw [unit, Text.hexDigits_four hn]
  refine Written.cons (by decide) (Written.cons (by decide) fun c hc => ?_)
  obtain ⟨d, hd, rfl⟩ := List.mem_map.mp hc
  refine isWritten_digitChar d ?_
  simp only [List.mem_cons, List.not_mem_nil, or_false] at hd
  omega

theorem isWritten_of_escaped? {name c : Char} (h : escaped? name = some c) :
    isWritten name = true := by
  rw [escaped?.eq_def] at h
  split at h
  case h_9 => cases h
  all_goals rfl

theorem written_escape (c : Char) : Written (escape c) := by
  have hescaped := escaped_escape c
  generalize escape c = cs at hescaped ⊢
  cases hescaped with
  | named hname =>
    exact Written.cons (by decide) (by simpa [Written] using isWritten_of_escaped? hname)
  | plain _ _ hplain => simpa [Written, isWritten] using Or.inr hplain
  | coded hc => exact written_unit hc
  | paired _ => exact (written_unit (highCode_lt c)).append (written_unit (lowCode_lt c))

theorem written_stringText (s : String) : Written (stringText s).toList := by
  rw [toList_stringText]
  refine Written.cons (by decide) (Written.append ?_ (by simp [Written, isWritten]))
  intro d hd
  obtain ⟨c, -, hd⟩ := List.mem_flatMap.mp hd
  exact written_escape c d hd

theorem written_breakLine (indent : Option Nat) (depth : Nat) {otherwise : String}
    (hother : Written otherwise.toList) : Written (breakLine indent depth otherwise).toList := by
  obtain heq | ⟨n, heq⟩ := breakLine_toList indent depth otherwise
  · rwa [heq]
  · rw [heq]
    exact (written_replicate (by decide) n).cons (by decide)

theorem written_followers {between last : List Char} (hbetween : Written between)
    (hlast : Written last) {ending : Char} (hending : isWritten ending = true)
    {parts : List (List Char)} (hparts : ∀ part ∈ parts, Written part) :
    Written (followers between last ending parts) := by
  induction parts with
  | nil => exact hlast.append (by simpa [Written] using hending)
  | cons part parts ih =>
    have hmore := ih fun other hother => hparts other (List.mem_cons_of_mem _ hother)
    exact (hbetween.append ((hparts part List.mem_cons_self).append hmore)).cons (by decide)

theorem written_bracketed (indent : Option Nat) (depth : Nat) {opening ending : Char}
    (hopening : isWritten opening = true) (hending : isWritten ending = true) {parts : List String}
    (hparts : ∀ part ∈ parts, Written part.toList) :
    Written (bracketed indent depth (String.singleton opening) (String.singleton ending)
      parts).toList := by
  cases parts with
  | nil =>
    rw [toList_bracketed_nil]
    simpa [Written] using ⟨hopening, hending⟩
  | cons part parts =>
    have hempty : Written "".toList := by simp [Written]
    have hspace : Written " ".toList := by simp [Written, isWritten]
    rw [toList_bracketed_cons, opened, closed]
    refine Written.cons hopening (Written.append ?_ (written_followers ?_ ?_ hending ?_))
    · exact (written_breakLine _ _ hempty).append (hparts part List.mem_cons_self)
    · exact written_breakLine _ _ hspace
    · exact written_breakLine _ _ hempty
    · simpa using fun other hother => hparts other (List.mem_cons_of_mem _ hother)

theorem Legible.written {v : Value} (h : Legible v) (indent : Option Nat) (depth : Nat) :
    Written (valueText indent depth v).toList := by
  induction h generalizing depth with
  | null => simp [valueText, atomText, Written, isWritten]
  | bool b => cases b <;> simp [valueText, atomText, Written, isWritten]
  | int n => exact written_toString n
  | @float x _ => exact written_floatText x
  | text s => exact written_stringText s
  | @list vs _ ih =>
    rw [valueText, itemTexts_eq_map]
    refine written_bracketed indent depth (show isWritten '[' = true by decide)
      (show isWritten ']' = true by decide) ?_
    simpa using fun v hv => ih v hv (depth + 1)
  | @record fields _ _ ih =>
    rw [Value.record, valueText, memberTexts_eq_map]
    refine written_bracketed indent depth (show isWritten '\x7b' = true by decide)
      (show isWritten '\x7d' = true by decide) ?_
    intro part hpart
    obtain ⟨field, hfield, rfl⟩ := List.mem_map.mp hpart
    rw [fieldText, String.toList_append, String.toList_append]
    exact ((written_stringText field.1).append (by simp [Written, isWritten])).append
      (ih field hfield (depth + 1))

/-- A legible document is read back from its text. -/
theorem parse_render {v : Value} (h : Legible v) (indent : Option Nat) :
    parse (render indent v) = .ok v := by
  have hspells := h.spells indent 0
  have hread := hspells.reads (2 * (valueText indent 0 v).toList.length + 2) [] (by omega) stops_nil
  have hskip := hspells.skip_append []
  have hmark : (valueText indent 0 v).toList.head? ≠ some '\uFEFF' := by
    intro hhead
    exact absurd (h.written indent 0 _ (List.mem_of_head? hhead)) (by decide)
  rw [List.append_nil] at hread hskip
  have hdocument : document (valueText indent 0 v).toList = .ok v := by
    rw [document, if_neg hmark, hskip, hread]
    rfl
  rw [parse, render, hdocument]

/-- A legible document is read back from its file. -/
theorem parseFile_render {v : Value} (h : Legible v) (indent : Option Nat) :
    parseFile (render indent v).toUTF8.toList = .ok v := by
  have hwritten : Written (render indent v).toList := h.written indent 0
  have hreturn : '\r' ∉ (render indent v).toList := by
    intro hmem
    exact absurd (hwritten _ hmem) (by decide)
  rw [parseFile, Text.Utf8.decode_toUTF8 hwritten.ascii, Text.unixLines_eq_self hreturn,
    String.ofList_toList, parse_render h]

end NetAtlas.Json
