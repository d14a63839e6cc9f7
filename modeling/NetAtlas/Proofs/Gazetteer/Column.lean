import NetAtlas.Gazetteer.Column
import NetAtlas.Proofs.Decimal.Numeral
import NetAtlas.Proofs.FloatExact
import NetAtlas.Proofs.Text.Letters

/-!
Where the two ways to read an integer agree. An integer of up to fifteen digits has room in a
mantissa, so it is the same number whether its column is one of integers or one of floats.
-/

namespace NetAtlas

namespace Cell

open Decimal FloatExact

theorem accumulate_ofNat {ds : List Nat} {n taken : Nat} (hfits : extend n ds < 2 ^ 53)
    (htaken : taken + ds.length ≤ significantDigits) :
    accumulate (Float.ofNat n) taken ds = (Float.ofNat (extend n ds), taken + ds.length, 0) := by
  have hten : (10.0 : Float) = Float.ofNat 10 := rfl
  induction ds generalizing n taken with
  | nil => rfl
  | cons d ds ih =>
    have hlower : 10 * n + d ≤ extend n (d :: ds) := le_extend (10 * n + d) ds
    rw [List.length_cons] at htaken
    have hstep : Float.ofNat n * 10.0 + Float.ofNat d = Float.ofNat (10 * n + d) := by
      rw [hten, ofNat_mul_ofNat (by omega) (by decide) (by omega), ofNat_add_ofNat (by omega),
        Nat.mul_comm]
    rw [accumulate, if_pos (by omega), hstep, ih hfits (by omega)]
    simp only [extend, List.foldl_cons, List.length_cons]
    congr 2
    omega

theorem scale_zero (x : Float) : scale x 0 = x / 1.0 := by
  have hone : powerOfTen (-0 : Int).toNat = 1.0 := by
    rw [← Float.toBits_inj]
    decide +kernel
  rw [scale]
  simp only [hone]
  rfl

theorem exponentOf?_of_spaces {cs : List Char} (h : cs.all isSpace = true) :
    exponentOf? cs = some 0 := by
  rw [exponentOf?.eq_def]
  split
  · rename_i c rest
    have hmark : ¬ (c = 'e' ∨ c = 'E') := by
      rintro (rfl | rfl) <;> exact absurd (List.all_eq_true.mp h _ List.mem_cons_self) (by decide)
    rw [if_neg hmark, if_pos h]
  · rfl

/-- A cell with an integer is a sign, digits and spaces. -/
theorem exists_of_integer? {s : String} {n : Int} (h : integer? s = some n) :
    ∃ negative cs ds rest, signOf (s.toList.dropWhile isSpace) = (negative, cs) ∧
      Json.asciiDigits cs = (ds, rest) ∧ ds ≠ [] ∧ rest.all isSpace = true ∧
      n = if negative then -(ofDigits ds : Int) else ofDigits ds := by
  rw [integer?] at h
  split at h
  rename_i negative cs hsign
  split at h
  · cases h
  · rename_i ds rest hnonempty hdigits
    split at h
    · rename_i hrest
      exact ⟨negative, cs, ds, rest, hsign, hdigits, hnonempty, hrest, (Option.some.inj h).symm⟩
    · cases h

theorem isSpace_toLower (c : Char) : isSpace c.toLower = isSpace c := Text.apply_toLower (by decide) c

theorem isAsciiDigit_toLower (c : Char) : Json.isAsciiDigit c.toLower = Json.isAsciiDigit c :=
  Text.apply_toLower (by decide) c

/-- A name for infinity starts with a letter. -/
theorem exists_of_infinity? {cs : List Char} {x : Float} (h : infinity? cs = some x) :
    ∃ c rest, (signOf cs).2 = c :: rest ∧ isSpace c = false ∧ Json.isAsciiDigit c = false := by
  rw [infinity?] at h
  split at h
  rename_i negative body hsign
  rw [hsign]
  have hword : body.map Char.toLower = "inf".toList ∨ body.map Char.toLower = "infinity".toList := by
    by_contra hnot
    simp only [hnot, ↓reduceIte] at h
    cases h
  cases body with
  | nil => simp at hword
  | cons c rest =>
    have hc : c.toLower = 'i' := by
      rcases hword with hword | hword
      · exact (List.cons.inj hword).1
      · exact (List.cons.inj hword).1
    refine ⟨c, rest, rfl, ?_, ?_⟩
    · rw [← isSpace_toLower, hc]
      decide
    · rw [← isAsciiDigit_toLower, hc]
      decide

theorem dropWhile_of_signOf {cs : List Char} {c : Char} {rest : List Char}
    (hsign : (signOf cs).2 = c :: rest) (hc : isSpace c = false) : cs.dropWhile isSpace = cs := by
  rw [signOf.eq_def] at hsign
  split at hsign
  · rfl
  · rfl
  · simp only at hsign
    rw [hsign, List.dropWhile_cons_of_neg (by simp [hc])]

theorem infinity?_of_integer? {s : String} {n : Int} (h : integer? s = some n) :
    infinity? s.toList = none := by
  rw [Option.eq_none_iff_forall_ne_some]
  intro x hx
  obtain ⟨negative, cs, ds, rest, hsign, hdigits, hnonempty, _, _⟩ := exists_of_integer? h
  obtain ⟨c, tail, hbody, hspace, hdigit⟩ := exists_of_infinity? hx
  rw [dropWhile_of_signOf hbody hspace] at hsign
  obtain rfl : cs = c :: tail := by rw [← hbody, hsign]
  apply hnonempty
  have hnone : (Json.asciiDigits (c :: tail)).1 = [] := by simp [Json.asciiDigits, hdigit]
  rwa [hdigits] at hnone

theorem digits_lt_ten {cs rest : List Char} {ds : List Nat} (h : Json.asciiDigits cs = (ds, rest)) :
    ∀ d ∈ ds, d < 10 := by
  have hds : ds = (cs.takeWhile Json.isAsciiDigit).map fun c => c.toNat - 48 :=
    (Prod.mk.inj h).1.symm
  rw [hds, List.forall_mem_map]
  intro c hc
  have hdigit := List.mem_takeWhile_imp hc
  simp only [Json.isAsciiDigit, Bool.and_eq_true, decide_eq_true_eq] at hdigit
  have hlast : c.toNat ≤ '9'.toNat := hdigit.2
  simp at hlast
  omega

theorem ofDigits_lt {cs rest : List Char} {ds : List Nat} (h : Json.asciiDigits cs = (ds, rest))
    (hlength : ds.length ≤ 15) : ofDigits ds < 2 ^ 53 := by
  have hlt : extend 0 ds < (0 + 1) * 10 ^ ds.length := extend_lt (digits_lt_ten h) 0
  have hpow := Nat.pow_le_pow_right (by decide : 0 < 10) hlength
  change extend 0 ds < 2 ^ 53
  omega

/-- Up to fifteen digits, which have room in a mantissa. -/
theorem number?_of_integer? {s : String} {negative : Bool} {cs : List Char} {ds : List Nat}
    {rest : List Char} (hsign : signOf (s.toList.dropWhile isSpace) = (negative, cs))
    (hdigits : Json.asciiDigits cs = (ds, rest)) (hnonempty : ds ≠ [])
    (hrest : rest.all isSpace = true) (hlength : ds.length ≤ 15) :
    number? s.toList = some
      (stored (if negative then .negative else .positive) (ofDigits ds)) := by
  have hvalue := ofDigits_lt hdigits hlength
  have haccumulate : accumulate 0.0 0 ds = (Float.ofNat (ofDigits ds), 0 + ds.length, 0) :=
    accumulate_ofNat hvalue (by rw [significantDigits]; omega)
  rw [number?]
  split
  rename_i negative' cs' hsign'
  split
  rename_i whole after hwhole
  split
  rename_i fraction behind hfraction
  obtain ⟨rfl, rfl⟩ := Prod.mk.inj (hsign.symm.trans hsign')
  obtain ⟨rfl, rfl⟩ := Prod.mk.inj (hdigits.symm.trans hwhole)
  obtain ⟨rfl, rfl⟩ : [] = fraction ∧ rest = behind := by
    split at hfraction
    · exact absurd (List.all_eq_true.mp hrest _ List.mem_cons_self) (by decide)
    · exact Prod.mk.inj hfraction
  have hexponent : (0 + (0 : Nat) - ((0 + ds.length - (0 + ds.length) : Nat) : Int) : Int) = 0 := by
    simp
  rw [exponentOf?_of_spaces hrest, haccumulate, if_neg (by simp [hnonempty])]
  simp only [Option.map_some, accumulate, hexponent, scale_zero]
  cases negative with
  | true => simp only [↓reduceIte, neg_ofNat hvalue, stored_div_one hvalue]
  | false =>
    simp only [Bool.false_eq_true, ↓reduceIte, ofNat_eq_stored hvalue, stored_div_one hvalue]

/-- The float of an integer with so many digits. -/
theorem toFloat?_of_lt {n : Nat} (hfits : n < 2 ^ 53) {negative : Bool} (hzero : n = 0 → negative = false) :
    (Number.int (if negative then -(n : Int) else n)).toFloat? =
      some (stored (if negative then .negative else .positive) n) := by
  have hfloat : Float.ofInt (if negative then -(n : Int) else n) =
      stored (if negative then .negative else .positive) n := by
    cases negative with
    | false => exact ofNat_eq_stored hfits
    | true =>
      cases n with
      | zero => exact absurd (hzero rfl) (by decide)
      | succ n => exact neg_ofNat hfits
  rw [Number.toFloat?, hfloat]
  simp [isFinite_stored hfits]

/-- The cell holds no integer, or one of up to fifteen digits that is no zero with a sign. -/
def IsShort (s : String) : Prop :=
  ∀ n, integer? s = some n →
    s.toList.countP Json.isAsciiDigit ≤ 15 ∧ (n = 0 → '-' ∉ s.toList)

section Sign

variable {s : String} {negative : Bool} {cs : List Char}
  (hsign : signOf (s.toList.dropWhile isSpace) = (negative, cs))
include hsign

theorem sublist_of_signOf : cs.Sublist s.toList := by
  refine List.Sublist.trans ?_ (List.dropWhile_sublist isSpace)
  rw [signOf.eq_def] at hsign
  split at hsign
  · rename_i tail heq
    obtain rfl : tail = cs := (Prod.mk.inj hsign).2
    rw [heq]
    exact List.sublist_cons_self _ _
  · rename_i tail heq
    obtain rfl : tail = cs := (Prod.mk.inj hsign).2
    rw [heq]
    exact List.sublist_cons_self _ _
  · obtain rfl := (Prod.mk.inj hsign).2
    exact List.Sublist.refl _

theorem minus_mem_of_signOf (hnegative : negative = true) : '-' ∈ s.toList := by
  refine (List.dropWhile_sublist isSpace).subset ?_
  rw [signOf.eq_def] at hsign
  split at hsign
  · rename_i heq
    rw [heq]
    exact List.mem_cons_self
  · exact absurd ((Prod.mk.inj hsign).1.trans hnegative) (by decide)
  · exact absurd ((Prod.mk.inj hsign).1.trans hnegative) (by decide)

theorem length_le_countP {ds : List Nat} {rest : List Char}
    (hdigits : Json.asciiDigits cs = (ds, rest)) :
    ds.length ≤ s.toList.countP Json.isAsciiDigit := by
  have hds : (cs.takeWhile Json.isAsciiDigit).map (fun c => c.toNat - 48) = ds :=
    (Prod.mk.inj hdigits).1
  rw [← hds, List.length_map,
    ← List.countP_eq_length.mpr fun c (hc : c ∈ cs.takeWhile _) => List.mem_takeWhile_imp hc]
  exact ((List.takeWhile_sublist _).trans (sublist_of_signOf hsign)).countP_le

end Sign

/-- The integer in a short cell reads as a float just the same. -/
theorem read?_of_isShort {s : String} {n : Int} (hshort : IsShort s) (h : integer? s = some n) :
    read? s = (Number.int n).toFloat? := by
  obtain ⟨hcount, hminus⟩ := hshort n h
  obtain ⟨negative, cs, ds, rest, hsign, hdigits, hnonempty, hrest, hn⟩ := exists_of_integer? h
  have hlength : ds.length ≤ 15 := Nat.le_trans (length_le_countP hsign hdigits) hcount
  have hvalue := ofDigits_lt hdigits hlength
  have hzero : ofDigits ds = 0 → negative = false := by
    intro hds
    refine Bool.eq_false_iff.mpr fun hnegative => ?_
    refine hminus ?_ (minus_mem_of_signOf hsign hnegative)
    simp [hn, hds]
  rw [read?, infinity?_of_integer? h, Option.none_or,
    number?_of_integer? hsign hdigits hnonempty hrest hlength, hn, toFloat?_of_lt hvalue hzero,
    Option.filter_some, isNaN_of_isFinite (isFinite_stored hvalue _)]
  rfl

end Cell

theorem map_of_mapM {α β : Type} {f : α → Option β} {as : List α} {bs : List β}
    (h : as.mapM f = some bs) : as.map f = bs.map some := by
  induction as generalizing bs with
  | nil =>
    obtain rfl : [] = bs := Option.some.inj h
    rfl
  | cons a as ih =>
    rw [List.mapM_cons] at h
    obtain ⟨b, hb, h⟩ := Option.bind_eq_some_iff.mp h
    obtain ⟨rest, hrest, h⟩ := Option.bind_eq_some_iff.mp h
    obtain rfl := Option.some.inj h
    rw [List.map_cons, List.map_cons, hb, ih hrest]

namespace NumberKind

theorem integer?_of_integers {cells : List (Option String)} (h : ofCells cells = .integers)
    {s : String} (hs : some s ∈ cells) : ∃ n, Cell.integer? s = some n := by
  rw [ofCells] at h
  split at h
  · rename_i ns hns
    have hmem := List.mem_map_of_mem (f := (·.bind Cell.integer?)) hs
    rw [map_of_mapM hns] at hmem
    obtain ⟨n, _, hn⟩ := List.mem_map.mp hmem
    exact ⟨n, hn.symm⟩
  · cases h

/-- A short cell reads as a float whatever column it is in. -/
theorem read?_of_isShort {cells : List (Option String)} {s : String} (hs : some s ∈ cells)
    (hshort : Cell.IsShort s) : (ofCells cells).read? s = Cell.read? s := by
  cases hkind : ofCells cells with
  | floats => rfl
  | integers =>
    obtain ⟨n, hn⟩ := integer?_of_integers hkind hs
    rw [read?, hn, Option.bind_some, Cell.read?_of_isShort hshort hn]

theorem isNaN_eq_false_of_read? {kind : NumberKind} {s : String} {x : Float}
    (h : kind.read? s = some x) : x.isNaN = false := by
  cases kind with
  | integers =>
    obtain ⟨n, _, hfloat⟩ := Option.bind_eq_some_iff.mp h
    rw [Number.toFloat?] at hfloat
    split at hfloat
    · rename_i hfinite
      rw [← Option.some.inj hfloat]
      exact FloatExact.isNaN_of_isFinite hfinite
    · cases hfloat
  | floats =>
    rw [read?, Cell.read?, Option.filter_eq_some_iff] at h
    simpa using h.2

end NumberKind

end NetAtlas
