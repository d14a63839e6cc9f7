import NetAtlas.Proofs.Projection.Attribute
import NetAtlas.Proofs.Projection.Calibration
import NetAtlas.Proofs.Text.Ascii

/-!
Maps of files. What the text says about size and view box decides what is loaded; whatever it says,
all sizes are greater than zero. A size too large for a number ends the loading.
-/

namespace NetAtlas

/-- Of a number greater than zero there is a whole part, unless the number is infinite. -/
theorem Value.exists_toInt_of_lt {x : Float} (h : 0.0 < x) (hx : x ≠ 1.0 / 0.0) :
    ∃ n, (Value.float x).toInt = .ok n := by
  rw [toInt]
  cases hkind : FloatKind.of x with
  | finite d => exact ⟨_, rfl⟩
  | infinite negative =>
    have heq := FloatKind.eq_of_infinite hkind
    cases negative with
    | false => exact absurd heq hx
    | true =>
      rw [heq] at h
      exact absurd h (by decide)
  | notANumber =>
    rw [FloatKind.eq_of_notANumber hkind] at h
    exact absurd h (by decide)

namespace MapFile

/-- The text in the content of a file. -/
def textOf (bytes : List UInt8) : List Char := Text.unixLines (Text.Utf8.decode bytes).toList

/-- The first attribute of the name is the number. -/
def Says (name : String) (cs : List Char) (x : Float) : Prop :=
  ∃ digits, Bears name.toList inNumber false digits cs ∧
    Decimal.readFloat? (String.ofList digits) = some x

/-- A size is too large for a number. -/
def Endless (cs : List Char) : Prop :=
  Says "width" cs (1.0 / 0.0) ∨ Says "height" cs (1.0 / 0.0)

/-- The first view box. -/
def HasViewBox (found cs : List Char) : Prop := Bears "viewbox".toList inViewBox false found cs

/-- The parts of a view box, between commas and blanks. -/
def parts (found : List Char) : List (List Char) :=
  Text.runs (fun c => c = ',' || Text.isBlank c) found

/-- The first view box consists of four numbers. -/
def Boxed (cs : List Char) (x y width height : Float) : Prop :=
  ∃ found a b c d, HasViewBox found cs ∧ parts found = [a, b, c, d] ∧
    Decimal.readFloat? (String.ofList a) = some x ∧ Decimal.readFloat? (String.ofList b) = some y ∧
    Decimal.readFloat? (String.ofList c) = some width ∧
    Decimal.readFloat? (String.ofList d) = some height

/-- There is no view box, or the first one is of no use. -/
inductive Boxless (cs : List Char) : Prop where
  | absent (h : Lacks "viewbox".toList inViewBox false cs)
  | miscounted {found : List Char} (h : HasViewBox found cs) (hcount : (parts found).length ≠ 4)
  | unparsable {found part : List Char} (h : HasViewBox found cs) (hpart : part ∈ parts found)
      (hread : Decimal.readFloat? (String.ofList part) = none)
  | flat {x y width height : Float} (h : Boxed cs x y width height)
      (hflat : ¬ 0.0 < width ∨ ¬ 0.0 < height)

theorem positive?_eq_some_iff {name : String} {cs : List Char} {x : Float} :
    positive? name cs = some x ↔ Says name cs x ∧ 0.0 < x := by
  simp only [Says, ← attribute?_eq_some_iff (show inNumber '"' = false from rfl)]
  rw [positive?]
  cases attribute? name.toList inNumber false cs with
  | none => simp
  | some digits => simp [Option.filter_eq_some_iff]

theorem mapM_four_eq_some_iff {α β : Type} {f : α → Option β} {a b c d : α} {w x y z : β} :
    [a, b, c, d].mapM f = some [w, x, y, z] ↔
      f a = some w ∧ f b = some x ∧ f c = some y ∧ f d = some z := by
  simp [List.mapM_cons, Option.bind_eq_some_iff, pure]

theorem viewBox?_eq_some_iff {path : String} {cs : List Char} {x y width height : Float} :
    (viewBox? path cs).1 = some (x, y, width, height) ↔ Boxed cs x y width height := by
  have hsearch (found : List Char) :
      attribute? "viewbox".toList inViewBox false cs = some found ↔ HasViewBox found cs :=
    attribute?_eq_some_iff rfl
  constructor
  · intro h
    rw [viewBox?] at h
    split at h
    · cases h
    · rename_i found hfound
      split at h
      · rename_i a b c d hparts
        split at h
        · rename_i hread
          cases h
          exact ⟨found, a, b, c, d, (hsearch found).mp hfound, hparts,
            mapM_four_eq_some_iff.mp hread⟩
        · cases h
      · cases h
  · rintro ⟨found, a, b, c, d, hfound, hparts, hread⟩
    rw [parts] at hparts
    have hread : [a, b, c, d].mapM (fun word => Decimal.readFloat? (String.ofList word)) =
        some [x, y, width, height] := mapM_four_eq_some_iff.mpr hread
    rw [viewBox?, (hsearch found).mpr hfound]
    simp only [hparts, hread]

/-- There is one first view box. -/
theorem HasViewBox.unique {found other cs : List Char} (h : HasViewBox found cs)
    (h' : HasViewBox other cs) : found = other := by
  have hfound := (attribute?_eq_some_iff (show inViewBox '"' = false from rfl)).mpr h
  exact Option.some.inj (hfound.symm.trans ((attribute?_eq_some_iff rfl).mpr h'))

theorem Boxed.unique {cs : List Char} {x y w h x' y' w' h' : Float} (hb : Boxed cs x y w h)
    (hb' : Boxed cs x' y' w' h') : (x, y, w, h) = (x', y', w', h') := by
  have hread := (@viewBox?_eq_some_iff "" ..).mpr hb
  exact Option.some.inj (hread.symm.trans (viewBox?_eq_some_iff.mpr hb'))

/-- Without a view box of use none has a size. -/
theorem Boxless.not_sized {cs : List Char} (h : Boxless cs) {x y width height : Float}
    (hb : Boxed cs x y width height) : ¬ (0.0 < width ∧ 0.0 < height) := by
  rintro ⟨hwidth, hheight⟩
  obtain ⟨found, a, b, c, d, hfound, hparts, hx, hy, hw, hh⟩ := id hb
  cases h with
  | absent hlacks =>
    obtain ⟨front, back, hcs, hstands, -⟩ := hfound
    exact hlacks front back found hcs hstands
  | miscounted hother hcount =>
    rw [hother.unique hfound, hparts] at hcount
    exact hcount rfl
  | unparsable hother hpart hread =>
    rw [hother.unique hfound, hparts] at hpart
    simp only [List.mem_cons, List.not_mem_nil, or_false] at hpart
    obtain rfl | rfl | rfl | rfl := hpart <;> simp [hx, hy, hw, hh] at hread
  | flat hother hflat =>
    cases hother.unique hb
    exact hflat.elim (absurd hwidth) (absurd hheight)

theorem boxless_or_boxed {found a b c d cs : List Char} (h : HasViewBox found cs)
    (hparts : parts found = [a, b, c, d]) :
    Boxless cs ∨ ∃ x y width height, Boxed cs x y width height := by
  by_cases hread : ∃ part ∈ parts found, Decimal.readFloat? (String.ofList part) = none
  · obtain ⟨part, hpart, hnone⟩ := hread
    exact .inl (.unparsable h hpart hnone)
  · have hnumber (part : List Char) (hpart : part ∈ parts found) :
        ∃ x, Decimal.readFloat? (String.ofList part) = some x :=
      Option.ne_none_iff_exists'.mp fun hnone => hread ⟨part, hpart, hnone⟩
    rw [hparts] at hnumber
    obtain ⟨x, hx⟩ := hnumber a (by simp)
    obtain ⟨y, hy⟩ := hnumber b (by simp)
    obtain ⟨width, hwidth⟩ := hnumber c (by simp)
    obtain ⟨height, hheight⟩ := hnumber d (by simp)
    exact .inr ⟨x, y, width, height, found, a, b, c, d, h, hparts, hx, hy, hwidth, hheight⟩

/-- There is no other way to be of no use than those. -/
theorem boxless_iff {cs : List Char} :
    Boxless cs ↔ ∀ x y width height, Boxed cs x y width height → ¬ (0.0 < width ∧ 0.0 < height) := by
  refine ⟨fun h x y width height => h.not_sized, fun h => ?_⟩
  cases hsearch : attribute? "viewbox".toList inViewBox false cs with
  | none => exact .absent ((attribute?_eq_none_iff rfl).mp hsearch)
  | some found =>
    have hfound : HasViewBox found cs := (attribute?_eq_some_iff rfl).mp hsearch
    by_cases hcount : (parts found).length = 4
    · obtain ⟨a, b, c, d, hparts⟩ := List.length_eq_four.mp hcount
      rcases boxless_or_boxed hfound hparts with hless | ⟨x, y, width, height, hboxed⟩
      · exact hless
      · exact .flat hboxed (not_and_or.mp (h x y width height hboxed))
    · exact .miscounted hfound hcount

theorem size_baseMapOf (path : String) (cs : List Char) :
    (baseMapOf path cs).1.width = (positive? "width" cs).getD defaultWidth ∧
      (baseMapOf path cs).1.height = (positive? "height" cs).getD defaultHeight := by
  rw [baseMapOf]
  dsimp only
  split
  · exact ⟨rfl, rfl⟩
  · split <;> exact ⟨rfl, rfl⟩

/-- A size is infinite where the text says so, and only there. -/
theorem getD_positive?_eq_iff {x : Float} (hx : x ≠ 1.0 / 0.0) (name : String) (cs : List Char) :
    (positive? name cs).getD x = 1.0 / 0.0 ↔ Says name cs (1.0 / 0.0) := by
  have hsaid : Says name cs (1.0 / 0.0) ↔ positive? name cs = some (1.0 / 0.0) := by
    rw [positive?_eq_some_iff]
    exact ⟨fun h => ⟨h, by decide⟩, And.left⟩
  rw [hsaid]
  cases positive? name cs with
  | none => simpa using hx
  | some y => simp

theorem endless_iff (path : String) (cs : List Char) :
    Endless cs ↔
      (baseMapOf path cs).1.width = 1.0 / 0.0 ∨ (baseMapOf path cs).1.height = 1.0 / 0.0 := by
  obtain ⟨hwidth, hheight⟩ := size_baseMapOf path cs
  rw [hwidth, hheight, getD_positive?_eq_iff (by decide), getD_positive?_eq_iff (by decide), Endless]

theorem box_of_boxed {path : String} {cs : List Char} {x y width height : Float}
    (h : Boxed cs x y width height) (hwidth : 0.0 < width) (hheight : 0.0 < height) :
    (baseMapOf path cs).1.boxWidth = width ∧ (baseMapOf path cs).1.boxHeight = height := by
  have hread := (@viewBox?_eq_some_iff path ..).mpr h
  rcases hbox : viewBox? path cs with ⟨found, notices⟩
  rw [hbox] at hread
  obtain rfl : found = some (x, y, width, height) := hread
  rw [baseMapOf, hbox]
  dsimp only
  rw [if_pos ⟨hwidth, hheight⟩]
  exact ⟨rfl, rfl⟩

theorem box_of_boxless {path : String} {cs : List Char} (h : Boxless cs) :
    (baseMapOf path cs).1.boxWidth = (baseMapOf path cs).1.width ∧
      (baseMapOf path cs).1.boxHeight = (baseMapOf path cs).1.height := by
  rw [baseMapOf]
  dsimp only
  split
  · exact ⟨rfl, rfl⟩
  · rename_i x y width height notices hbox
    have hboxed := viewBox?_eq_some_iff.mp (congrArg Prod.fst hbox)
    have hflat := boxless_iff.mp h x y width height hboxed
    rw [if_neg hflat]
    exact ⟨rfl, rfl⟩

/-- The size is reported in whole units. An infinite one has none, which is a fault. -/
theorem report_of_endless (path : String) {b : BaseMap Float} (hwidth : 0.0 < b.width)
    (h : b.width = 1.0 / 0.0 ∨ b.height = 1.0 / 0.0) : report path b = .error .infinite := by
  have hinfinite : (Value.float (1.0 / 0.0)).toInt = .error .infinite := rfl
  by_cases hw : b.width = 1.0 / 0.0
  · rw [report, hw, hinfinite]
    rfl
  · obtain ⟨width, hfinite⟩ := Value.exists_toInt_of_lt hwidth hw
    rw [report, hfinite, h.resolve_left hw, hinfinite]
    rfl

theorem exists_report (path : String) {b : BaseMap Float} (hwidth : 0.0 < b.width)
    (hheight : 0.0 < b.height) (h : ¬ (b.width = 1.0 / 0.0 ∨ b.height = 1.0 / 0.0)) :
    ∃ notice, report path b = .ok notice := by
  rw [not_or] at h
  obtain ⟨width, hw⟩ := Value.exists_toInt_of_lt hwidth h.1
  obtain ⟨height, hh⟩ := Value.exists_toInt_of_lt hheight h.2
  rw [report, hw, hh]
  exact ⟨_, rfl⟩

theorem zero_lt_size_baseMapOf (path : String) (cs : List Char) :
    0.0 < (baseMapOf path cs).1.width ∧ 0.0 < (baseMapOf path cs).1.height := by
  obtain ⟨hwidth, hheight⟩ := size_baseMapOf path cs
  rw [hwidth, hheight]
  exact ⟨zero_lt_getD_positive? (by decide) _ cs, zero_lt_getD_positive? (by decide) _ cs⟩

theorem load_of_endless (path : String) {bytes : List UInt8} (h : Endless (textOf bytes)) :
    (load path (.ok bytes)).1 = .error (.fault .infinite) := by
  have hreport := report_of_endless path (zero_lt_size_baseMapOf path (textOf bytes)).1
    ((endless_iff path _).mp h)
  rw [textOf] at hreport
  simp only [load, hreport]

theorem load_of_not_endless (path : String) {bytes : List UInt8} (h : ¬ Endless (textOf bytes)) :
    (load path (.ok bytes)).1 = .ok (baseMapOf path (textOf bytes)).1 := by
  obtain ⟨hwidth, hheight⟩ := zero_lt_size_baseMapOf path (textOf bytes)
  obtain ⟨notice, hreport⟩ := exists_report path hwidth hheight ((endless_iff path _).not.mp h)
  rw [textOf] at hreport ⊢
  simp only [load, hreport]

/-- The default map takes the place of a file that cannot be read, not of one that can. -/
theorem loadOrDefault_of_bytes (path : String) (bytes : List UInt8) :
    (loadOrDefault path (.ok bytes)).1 = (load path (.ok bytes)).1 := by
  rw [loadOrDefault]
  rcases hload : load path (.ok bytes) with ⟨outcome, notices⟩
  by_cases h : Endless (textOf bytes)
  · have hfault := load_of_endless path h
    rw [hload] at hfault
    obtain rfl : outcome = .error (.fault .infinite) := hfault
    rfl
  · have hbase := load_of_not_endless path h
    rw [hload] at hbase
    obtain rfl : outcome = .ok _ := hbase
    rfl

end MapFile

namespace Projector

/-- The map has no part in what the settings may lack. -/
theorem ofSettings_eq_map (base other : BaseMap Float) (s : ProjectionSettings) :
    ofSettings base s = (ofSettings other s).map fun p => { p with base } := by
  rw [ofSettings, ofSettings]
  cases settingOf s.viewWidth with
  | error f => rfl
  | ok width =>
    cases settingOf s.viewHeight with
    | error f => rfl
    | ok height =>
      cases settingOf s.maxLatitude with
      | error f => rfl
      | ok latitude => cases s.precision.integer? <;> rfl

section

variable {s : ProjectionSettings} {map? : Option (String × Except AccessError (List UInt8))}

theorem load_of_mapOf_ok {base : BaseMap Float} (h : (mapOf map?).1 = .ok base) :
    (load s map?).1 = (load s none).1.map fun p => { p with base } := by
  rcases hmap : mapOf map? with ⟨outcome, notices⟩
  rw [hmap] at h
  obtain rfl : outcome = .ok base := h
  rw [load, hmap]
  simp only [load, mapOf]
  rw [ofSettings_eq_map base .default]
  cases ofSettings .default s <;> rfl

theorem load_of_mapOf_error {cause : Failure} (h : (mapOf map?).1 = .error cause) :
    (load s map?).1 = .error cause := by
  rcases hmap : mapOf map? with ⟨outcome, notices⟩
  rw [hmap] at h
  obtain rfl : outcome = .error cause := h
  rw [load, hmap]

end

end Projector

namespace MapFile

/-- A text loads as a map, with all sizes greater than zero, unless a size in it is too large for a
number. Then neither the map is loaded nor a projector on it, whatever the settings are. -/
theorem load_of_bytes (path : String) (bytes : List UInt8) :
    (Endless (textOf bytes) →
      (load path (.ok bytes)).1 = .error (.fault .infinite) ∧
      ∀ s, (Projector.load s (some (path, .ok bytes))).1 = .error (.fault .infinite)) ∧
    (¬ Endless (textOf bytes) →
      ∃ base, (load path (.ok bytes)).1 = .ok base ∧
        (0.0 < base.width ∧ 0.0 < base.height) ∧ (0.0 < base.boxWidth ∧ 0.0 < base.boxHeight) ∧
        (∀ x y width height, Boxed (textOf bytes) x y width height → 0.0 < width → 0.0 < height →
          base.boxWidth = width ∧ base.boxHeight = height) ∧
        (Boxless (textOf bytes) → base.boxWidth = base.width ∧ base.boxHeight = base.height) ∧
        ∀ s, (Projector.load s (some (path, .ok bytes))).1 =
          (Projector.load s none).1.map fun p => { p with base }) := by
  have hmap : (Projector.mapOf (some (path, .ok bytes))).1 = (load path (.ok bytes)).1 :=
    loadOrDefault_of_bytes path bytes
  refine ⟨fun h => ?_, fun h => ?_⟩
  · have hload := load_of_endless path h
    exact ⟨hload, fun s => Projector.load_of_mapOf_error (hmap.trans hload)⟩
  · have hload := load_of_not_endless path h
    exact ⟨_, hload, zero_lt_size_baseMapOf path _, zero_lt_box_baseMapOf path _,
      fun x y width height => box_of_boxed, box_of_boxless,
      fun s => Projector.load_of_mapOf_ok (hmap.trans hload)⟩

/-- A map that is wider than a number can say. -/
def vast : List Char :=
  ['<', 's', 'v', 'g', ' ', 'w', 'i', 'd', 't', 'h', '=', '"'] ++
    (List.replicate 309 '9' ++ ['"', '/', '>'])

theorem attribute?_vast :
    attribute? "width".toList inNumber false vast = some (List.replicate 309 '9') := by
  decide +kernel

theorem readFloat?_nines :
    Decimal.readFloat? (String.ofList (List.replicate 309 '9')) = some (1.0 / 0.0) := by
  rw [Decimal.readFloat?, String.toList_ofList]
  decide +kernel

theorem load_vast :
    (load "map.svg" (.ok (String.ofList vast).toUTF8.toList)).1 = .error (.fault .infinite) := by
  have hascii : Text.Ascii vast := by
    rw [Text.Ascii, vast, List.forall_mem_append, List.forall_mem_append]
    refine ⟨by simp, fun c hc => ?_, by simp⟩
    rw [List.eq_of_mem_replicate hc]
    decide
  have htext : textOf (String.ofList vast).toUTF8.toList = vast := by
    rw [textOf, Text.Utf8.decode_toUTF8 (by rwa [String.toList_ofList]), String.toList_ofList]
    apply Text.unixLines_eq_self
    rw [vast, List.mem_append, List.mem_append, List.mem_replicate]
    decide
  apply load_of_endless
  rw [htext]
  exact .inl ⟨_, (attribute?_eq_some_iff rfl).mp attribute?_vast, readFloat?_nines⟩

end MapFile

end NetAtlas
