import Mathlib.Logic.Relation
import NetAtlas.Proofs.Location.Resolve
import NetAtlas.Proofs.Text.Letters
import NetAtlas.Proofs.Text.Pieces

/-!
Spellings of a location text. Case and blanks are settled in several places, when the text is taken
apart and when its parts are looked up; two spellings of a text find the same city all the same.
-/

namespace NetAtlas

/-- All characters of the text are blank. -/
def IsGap (s : String) : Prop := ∀ c ∈ s.toList, Text.isBlank c = true

/-- The second text is another spelling of the first one: ASCII letters are in another case, or it
    has blanks at its ends, next to a comma or, if there is no comma, next to a hyphen. -/
inductive Respells : String → String → Prop
  | letters {s t : String} (h : s.toLower = t.toLower) : Respells s t
  | ends {left right : String} (s : String) (hleft : IsGap left) (hright : IsGap right) :
      Respells s (left ++ s ++ right)
  | comma {left right : String} (front back : String) (hleft : IsGap left) (hright : IsGap right) :
      Respells (front ++ "," ++ back) (front ++ left ++ "," ++ right ++ back)
  | hyphen {left right : String} {front back : String} (hfront : ',' ∉ front.toList)
      (hback : ',' ∉ back.toList) (hleft : IsGap left) (hright : IsGap right) :
      Respells (front ++ "-" ++ back) (front ++ left ++ "-" ++ right ++ back)

namespace Location

theorem isPlace_toLower (segment : List Char) : isPlace (segment.map Char.toLower) = isPlace segment := by
  rw [isPlace, isPlace, isTechnical, isTechnical, List.length_map, Text.allDigits_toLower,
    Text.lower_toLower]

/-- Blanks at the ends of the whole text do not count when it is taken apart. -/
theorem ofText_eq (text : String) :
    ofText text =
      if ',' ∈ text.toList then ofCommas (Text.pieces ',' text.toList)
      else if '-' ∈ text.toList then ofHyphens (Text.pieces '-' text.toList)
      else { city := String.ofList (Text.trim text.toList), country := none } := by
  have hcomma : Text.isBlank ',' = false := by decide
  have hhyphen : Text.isBlank '-' = false := by decide
  simp only [ofText, List.contains_iff_mem, Text.mem_trim_iff hcomma, Text.mem_trim_iff hhyphen]
  rw [← Text.pieces, ← Text.pieces, Text.pieces_trim hcomma, Text.pieces_trim hhyphen]

theorem ofText_of_comma {text : String} (hcomma : ',' ∈ text.toList) :
    ofText text = ofCommas (Text.pieces ',' text.toList) := by
  rw [ofText_eq, if_pos hcomma]

theorem ofText_of_hyphen {text : String} (hcomma : ',' ∉ text.toList) (hhyphen : '-' ∈ text.toList) :
    ofText text = ofHyphens (Text.pieces '-' text.toList) := by
  rw [ofText_eq, if_neg hcomma, if_pos hhyphen]

/-- Both parts with their ASCII letters in lower case. -/
def toLower (l : Location) : Location := ⟨l.city.toLower, l.country.map String.toLower⟩

theorem ofList_map_toLower (cs : List Char) :
    String.ofList (cs.map Char.toLower) = (String.ofList cs).toLower := by
  rw [← String.toList_inj, String.toLower, String.toList_map, String.toList_ofList,
    String.toList_ofList]

theorem headD_toLower (segments : List (List Char)) :
    (segments.map (List.map Char.toLower)).headD [] = (segments.headD []).map Char.toLower := by
  cases segments <;> rfl

theorem ofCommas_toLower (segments : List (List Char)) :
    ofCommas (segments.map (List.map Char.toLower)) = (ofCommas segments).toLower := by
  have hlast : (segments.map (List.map Char.toLower)).getLastD [] =
      (segments.getLastD []).map Char.toLower :=
    List.getLastD_map (f := List.map Char.toLower) (a := [])
  simp only [ofCommas, headD_toLower, hlast, ofList_map_toLower, List.isEmpty_map, toLower]
  split <;> rfl

theorem ofHyphens_toLower (segments : List (List Char)) :
    ofHyphens (segments.map (List.map Char.toLower)) = (ofHyphens segments).toLower := by
  have hplace : isPlace ∘ List.map Char.toLower = isPlace := funext isPlace_toLower
  rw [ofHyphens, ofHyphens, headD_toLower, List.find?_map, hplace, Option.getD_map, ofList_map_toLower]
  rfl

/-- A text in lower case comes apart into parts in lower case. -/
theorem ofText_toLower (text : String) : ofText text.toLower = (ofText text).toLower := by
  have hcomma := Text.toLower_eq_iff ',' (by decide)
  have hhyphen := Text.toLower_eq_iff '-' (by decide)
  have htext : text.toLower.toList = text.toList.map Char.toLower := String.toList_map
  rw [ofText_eq, ofText_eq, htext]
  simp only [List.mem_map, hcomma, hhyphen, exists_eq_right,
    Text.pieces_map hcomma Text.isBlank_toLower, Text.pieces_map hhyphen Text.isBlank_toLower,
    Text.trim_map Text.isBlank_toLower, ofCommas_toLower, ofHyphens_toLower, ofList_map_toLower]
  split_ifs <;> rfl

section

variable {left right : String} (hleft : IsGap left) (hright : IsGap right)

include hleft hright

theorem ofText_ends (s : String) : ofText (left ++ s ++ right) = ofText s := by
  have hcomma : Text.isBlank ',' = false := by decide
  have hhyphen : Text.isBlank '-' = false := by decide
  have hnocomma := Text.not_mem_of_blank hcomma hleft
  have hnocomma' := Text.not_mem_of_blank hcomma hright
  have hnohyphen := Text.not_mem_of_blank hhyphen hleft
  have hnohyphen' := Text.not_mem_of_blank hhyphen hright
  rw [ofText_eq, ofText_eq]
  simp only [String.toList_append, List.mem_append, hnocomma, hnocomma', hnohyphen, hnohyphen',
    false_or, or_false, Text.pieces_append_of_blank_right hcomma hright,
    Text.pieces_append_of_blank_right hhyphen hright, Text.pieces_append_of_blank hcomma hleft,
    Text.pieces_append_of_blank hhyphen hleft, Text.trim_append_of_blank_right hright,
    Text.trim_append_of_blank hleft]

/-- Blanks on both sides of a separator do not reach the pieces that it is between. -/
theorem pieces_gaps {sep : Char} (hsep : Text.isBlank sep = false) (front back : List Char) :
    Text.pieces sep (front ++ left.toList ++ sep :: (right.toList ++ back)) =
      Text.pieces sep (front ++ sep :: back) := by
  rw [Text.pieces_append_cons, Text.pieces_append_cons,
    Text.pieces_append_of_blank_right hsep hleft, Text.pieces_append_of_blank hsep hright]

theorem ofText_comma (front back : String) :
    ofText (front ++ left ++ "," ++ right ++ back) = ofText (front ++ "," ++ back) := by
  have hspaced : (front ++ left ++ "," ++ right ++ back).toList =
      front.toList ++ left.toList ++ ',' :: (right.toList ++ back.toList) := by simp
  have hplain : (front ++ "," ++ back).toList = front.toList ++ ',' :: back.toList := by simp
  rw [ofText_of_comma (by simp [hspaced]), ofText_of_comma (by simp [hplain]), hspaced, hplain,
    pieces_gaps hleft hright (by decide)]

theorem ofText_hyphen {front back : String} (hfront : ',' ∉ front.toList)
    (hback : ',' ∉ back.toList) :
    ofText (front ++ left ++ "-" ++ right ++ back) = ofText (front ++ "-" ++ back) := by
  have hspaced : (front ++ left ++ "-" ++ right ++ back).toList =
      front.toList ++ left.toList ++ '-' :: (right.toList ++ back.toList) := by simp
  have hplain : (front ++ "-" ++ back).toList = front.toList ++ '-' :: back.toList := by simp
  have hleft' := Text.not_mem_of_blank (show Text.isBlank ',' = false by decide) hleft
  have hright' := Text.not_mem_of_blank (show Text.isBlank ',' = false by decide) hright
  rw [ofText_of_hyphen (by simp [hspaced, hfront, hback, hleft', hright']) (by simp [hspaced]),
    ofText_of_hyphen (by simp [hplain, hfront, hback]) (by simp [hplain]), hspaced, hplain,
    pieces_gaps hleft hright (by decide)]

end

end Location

namespace Gazetteer

theorem keyForm_toLower (s : String) : keyForm s.toLower = keyForm s := by
  have htext : s.toLower.toList = s.toList.map Char.toLower := String.toList_map
  rw [keyForm, keyForm, trimmed, htext, Text.trim_map Text.isBlank_toLower, lowered, lowered,
    String.toList_ofList, Text.lower_toLower, trimmed, String.toList_ofList]

variable (g : Gazetteer)

theorem find?_toLower (name : String) : g.find? name.toLower = g.find? name := by
  rw [find?, find?, keyForm_toLower]

theorem findIn?_toLower (name country : String) :
    g.findIn? name.toLower country = g.findIn? name country := by
  rw [findIn?, findIn?, keyForm_toLower]

theorem locate?_toLower (l : Location) : g.locate? l.toLower = g.locate? l := by
  obtain ⟨city, country⟩ := l
  have hempty : city.toLower = "" ↔ city = "" := by
    rw [← String.toList_inj, ← String.toList_inj, String.toLower, String.toList_map]
    simp
  simp only [locate?, Location.toLower, hempty]
  cases country with
  | none => simp only [Option.map_none, find?_toLower]
  | some country =>
    have hkeys : countryKeys country.toLower = countryKeys country := by
      rw [countryKeys, countryKeys, keyForm_toLower]
    have hfind : g.findIn? city.toLower = g.findIn? city := funext (g.findIn?_toLower city)
    simp only [Option.map_some, hkeys, hfind, find?_toLower]

theorem resolve?_toLower (text : String) : g.resolve? text.toLower = g.resolve? text := by
  rw [resolve?, resolve?, Location.ofText_toLower, locate?_toLower]

theorem resolve?_of_respells {s t : String} (h : Respells s t) :
    g.resolve? s = g.resolve? t := by
  cases h with
  | letters h => rw [← g.resolve?_toLower s, h, g.resolve?_toLower]
  | ends s hleft hright =>
    rw [resolve?, resolve?, Location.ofText_ends hleft hright]
  | comma front back hleft hright =>
    rw [resolve?, resolve?, Location.ofText_comma hleft hright]
  | hyphen hfront hback hleft hright =>
    rw [resolve?, resolve?, Location.ofText_hyphen hleft hright hfront hback]

/-- However often a location text is spelled in another way, in every gazetteer it means the same
    city, or none. -/
theorem resolve?_respelled {s t : String} (h : Relation.EqvGen Respells s t) :
    g.resolve? s = g.resolve? t := by
  induction h with
  | rel s t h => exact g.resolve?_of_respells h
  | refl s => rfl
  | symm s t _ ih => exact ih.symm
  | trans s t u _ _ ih ih' => exact ih.trans ih'

theorem resolve?_respelled_londons :
    Relation.EqvGen Respells "London, ON, Canada" " lonDON , on, CANADA" ∧
      (ofCities londons).resolve? " lonDON , on, CANADA" = some londons[1] := by
  have hblank : IsGap " " := by simp [IsGap, show Text.isBlank ' ' = true by decide]
  have hnone : IsGap "" := by simp [IsGap]
  have hletters : Respells "London, ON, Canada" "lonDON, on, CANADA" := by
    apply Respells.letters
    rw [← String.toList_inj, String.toLower, String.toLower, String.toList_map, String.toList_map]
    decide +kernel
  have hcomma : Respells "lonDON, on, CANADA" "lonDON , on, CANADA" := by
    simpa using @Respells.comma " " "" "lonDON" " on, CANADA" hblank hnone
  have hends : Respells "lonDON , on, CANADA" " lonDON , on, CANADA" := by
    simpa using @Respells.ends " " "" "lonDON , on, CANADA" hblank hnone
  have hspelled := ((Relation.EqvGen.rel _ _ hletters).trans _ _ _ (.rel _ _ hcomma)).trans _ _ _
    (.rel _ _ hends)
  have hplain : (ofCities londons).resolve? "London, ON, Canada" = some londons[1] := by
    decide +kernel
  exact ⟨hspelled, ((ofCities londons).resolve?_respelled hspelled).symm.trans hplain⟩

end Gazetteer

end NetAtlas
