import NetAtlas.Proofs.Json.Floats
import NetAtlas.Proofs.Json.Strings

/-!
Documents in JSON. A written value is read back as it was, on one line or with any indent, up to
the digits of its floats.
-/

namespace NetAtlas.Json

/-- The texts of a value's floats read back, and each of its mappings has distinct names. -/
inductive Legible : Value → Prop where
  | null : Legible .null
  | bool (b : Bool) : Legible (.bool b)
  | int (n : Int) : Legible (.int n)
  | float {x : Float} (hread : ReadsBack x) : Legible (.float x)
  | text (s : String) : Legible (.text s)
  | list {vs : List Value} (hitems : ∀ v ∈ vs, Legible v) : Legible (.list vs)
  | record {fields : List (String × Value)} (hnames : (fields.map (·.1)).Nodup)
      (hvalues : ∀ field ∈ fields, Legible field.2) : Legible (.record fields)

/-- A text that is read as a value, and no more than that, in front of whatever may follow it. -/
structure Spells (cs : List Char) (v : Value) : Prop where
  opens : ∃ c tail, cs = c :: tail ∧ isSpace c = false ∧ c ≠ ']'
  reads : ∀ (fuel : Nat) (rest : List Char), 2 * cs.length < fuel → Stops rest →
    value fuel (cs ++ rest) = .ok (v, rest)

theorem skip_cons {c : Char} (hc : isSpace c = false) (cs : List Char) : skip (c :: cs) = c :: cs := by
  simp [skip, hc]

theorem skip_append {blanks : List Char} (hblanks : ∀ c ∈ blanks, isSpace c = true)
    (rest : List Char) : skip (blanks ++ rest) = skip rest :=
  List.dropWhile_append_of_pos hblanks

theorem Spells.skip_append {cs : List Char} {v : Value} (h : Spells cs v) (rest : List Char) :
    skip (cs ++ rest) = cs ++ rest := by
  obtain ⟨c, tail, rfl, hc, -⟩ := h.opens
  exact skip_cons hc _

theorem spells_of_plain {cs : List Char} {v : Value} (hread : plain cs = .ok (v, [])) :
    Spells cs v := by
  obtain ⟨c, tail, rfl, hc⟩ := opensPlain_of_plain hread
  have hother : ∀ d, opensPlain d = false → c ≠ d := by
    rintro d hd rfl
    exact absurd hc (by simp [hd])
  refine ⟨⟨c, tail, rfl, ?_, hother ']' (by decide)⟩, fun fuel rest hfuel hrest => ?_⟩
  · simp [isSpace, hother ' ' (by decide), hother '\t' (by decide), hother '\n' (by decide),
      hother '\r' (by decide)]
  · obtain ⟨fuel, rfl⟩ : ∃ less, fuel = less + 1 := ⟨fuel - 1, by omega⟩
    rw [← plain_append hrest hread, List.cons_append, value.eq_def]
    simp [hother '"' (by decide), hother '[' (by decide), hother '\x7b' (by decide)]

theorem toList_stringText (s : String) :
    (stringText s).toList = '"' :: (s.toList.flatMap escape ++ ['"']) :=
  String.toList_ofList

theorem length_le_length_flatMap_escape (cs : List Char) : cs.length ≤ (cs.flatMap escape).length := by
  induction cs with
  | nil => exact Nat.le_refl 0
  | cons c cs ih =>
    have hone := List.length_pos_iff.mpr (escape_ne_nil c)
    rw [List.flatMap_cons, List.length_append, List.length_cons]
    omega

theorem length_stringText_le (s : String) : s.toList.length + 2 ≤ (stringText s).toList.length := by
  have hlength := length_le_length_flatMap_escape s.toList
  rw [toList_stringText]
  simp only [List.length_cons, List.length_append, List.length_nil]
  omega

/-- After its opening quote a string is read up to the closing one. -/
theorem opens_stringText (s : String) :
    ∃ tail, (stringText s).toList = '"' :: tail ∧ ∀ (opened rest : List Char) {fuel : Nat},
      s.toList.length < fuel → string opened fuel (tail ++ rest) [] = .ok (s, rest) := by
  refine ⟨s.toList.flatMap escape ++ ['"'], toList_stringText s, fun opened rest fuel hfuel => ?_⟩
  rw [List.append_assoc, List.singleton_append, string_flatMap_escape opened rest hfuel]
  simp

theorem spells_stringText (s : String) : Spells (stringText s).toList (.text s) := by
  obtain ⟨tail, htail, hstring⟩ := opens_stringText s
  have hlength := length_stringText_le s
  refine ⟨⟨'"', tail, htail, by decide, by decide⟩, fun fuel rest hfuel _ => ?_⟩
  obtain ⟨fuel, rfl⟩ : ∃ less, fuel = less + 1 := ⟨fuel - 1, by omega⟩
  rw [htail, List.cons_append, value, hstring _ rest (by omega)]
  rfl

section Steps

variable {fuel : Nat} {cs rest : List Char} {v : Value} (hread : value fuel cs = .ok (v, rest))

include hread

theorem items_of_value (read : List Value) :
    items (fuel + 1) cs read =
      match skip rest with
      | ']' :: rest => .ok (.list (v :: read).reverse, rest)
      | ',' :: rest => items fuel (skip rest) (v :: read)
      | rest => refuse .noComma rest := by
  rw [items, hread]
  rfl

theorem members_of_value {name : String} (hname : name.toList.length < fuel) (hopens : skip cs = cs)
    (read : List (Atom × Value)) :
    members (fuel + 1) ((stringText name).toList ++ ':' :: ' ' :: cs) read =
      match skip rest with
      | '\x7d' :: rest => .ok (.mapping (collect ((.text name, v) :: read)), rest)
      | ',' :: rest => members fuel (skip rest) ((.text name, v) :: read)
      | rest => refuse .noComma rest := by
  obtain ⟨tail, htail, hstring⟩ := opens_stringText name
  have hcolon : skip (':' :: ' ' :: cs) = ':' :: ' ' :: cs := skip_cons (by decide) _
  have hspace : skip (' ' :: cs) = cs :=
    (skip_append (List.forall_mem_singleton.mpr (show isSpace ' ' = true by decide)) cs).trans hopens
  rw [htail, List.cons_append, members, hstring _ _ hname]
  simp only [bind, Except.bind, hcolon, hspace, hread]
  rfl

end Steps

/-- What follows the first of the parts between brackets: the other parts, each after a comma and
the blanks `between`, and the bracket `ending` after the blanks `last`. -/
def followers (between last : List Char) (ending : Char) : List (List Char) → List Char
  | [] => last ++ [ending]
  | part :: parts => ',' :: (between ++ (part ++ followers between last ending parts))

theorem followers_cons_append (between last : List Char) (ending : Char) (part : List Char)
    (parts : List (List Char)) (rest : List Char) :
    followers between last ending (part :: parts) ++ rest =
      ',' :: (between ++ (part ++ (followers between last ending parts ++ rest))) := by
  simp [followers]

theorem intercalate_append (between last : List Char) (ending : Char) (part : List Char)
    (parts : List (List Char)) :
    (',' :: between).intercalate (part :: parts) ++ (last ++ [ending]) =
      part ++ followers between last ending parts := by
  induction parts generalizing part with
  | nil => simp [followers]
  | cons next parts ih =>
    rw [List.intercalate_cons_cons, List.append_assoc, ih, followers]
    simp

/-- The blanks between brackets: a line may end after the last part, and none does in front of it
without being blank. -/
structure Spaced (between last : List Char) : Prop where
  between_blank : ∀ c ∈ between, isSpace c = true
  last_blank : ∀ c ∈ last, isSpace c = true
  last_stops : ∀ c ∈ last.head?, isStop c = true

/-- A part of a mapping: the name, a colon, and the text of its value. -/
def SpellsField (part : List Char) (field : String × Value) : Prop :=
  ∃ cs, part = (stringText field.1).toList ++ ':' :: ' ' :: cs ∧ Spells cs field.2

theorem SpellsField.skip_append {part : List Char} {field : String × Value}
    (h : SpellsField part field) (rest : List Char) : skip (part ++ rest) = part ++ rest := by
  obtain ⟨cs, rfl, -⟩ := h
  rw [List.append_assoc]
  exact (spells_stringText field.1).skip_append _

namespace Spaced

variable {between last : List Char} (h : Spaced between last) {ending : Char}

include h

theorem stops_followers (hending : isStop ending = true) (parts : List (List Char))
    (rest : List Char) : Stops (followers between last ending parts ++ rest) := by
  cases parts with
  | nil =>
    intro c hc
    cases hlast : last with
    | nil =>
      obtain rfl : ending = c := by simpa [followers, hlast] using hc
      exact hending
    | cons d ds =>
      obtain rfl : d = c := by simpa [followers, hlast] using hc
      exact h.last_stops d (by simp [hlast])
  | cons part parts => exact stops_cons (by decide) _

theorem skip_last (hending : isSpace ending = false) (rest : List Char) :
    skip (followers between last ending [] ++ rest) = ending :: rest := by
  rw [followers, List.append_assoc, Json.skip_append h.last_blank, List.singleton_append,
    skip_cons hending]

theorem items_eq {part : List Char} {parts : List (List Char)} {v : Value} {vs : List Value}
    (hpart : Spells part v) (hparts : List.Forall₂ Spells parts vs) (fuel : Nat) (rest : List Char)
    (hfuel : 2 * (part ++ followers between last ']' parts).length < fuel) (read : List Value) :
    items fuel (part ++ (followers between last ']' parts ++ rest)) read =
      .ok (.list (read.reverse ++ v :: vs), rest) := by
  induction hparts generalizing part v fuel read with
  | nil =>
    obtain ⟨fuel, rfl⟩ : ∃ less, fuel = less + 1 := ⟨fuel - 1, by omega⟩
    have hread := hpart.reads fuel _ (by simp [followers] at hfuel; omega)
      (h.stops_followers (show isStop ']' = true by decide) [] rest)
    rw [items_of_value hread, h.skip_last (by decide)]
    simp
  | @cons next w parts ws hnext _ ih =>
    obtain ⟨fuel, rfl⟩ : ∃ less, fuel = less + 1 := ⟨fuel - 1, by omega⟩
    have hread := hpart.reads fuel _ (by simp [followers] at hfuel; omega)
      (h.stops_followers (show isStop ']' = true by decide) (next :: parts) rest)
    rw [followers_cons_append] at hread ⊢
    rw [items_of_value hread, skip_cons (by decide)]
    simp only
    rw [skip_append h.between_blank, hnext.skip_append,
      ih hnext fuel (by simp [followers] at hfuel ⊢; omega) (v :: read), List.reverse_cons,
      List.append_assoc, List.singleton_append]

theorem members_eq {part : List Char} {parts : List (List Char)} {field : String × Value}
    {fields : List (String × Value)} (hpart : SpellsField part field)
    (hparts : List.Forall₂ SpellsField parts fields) (fuel : Nat) (rest : List Char)
    (hfuel : 2 * (part ++ followers between last '\x7d' parts).length < fuel)
    (read : List (Atom × Value)) :
    members fuel (part ++ (followers between last '\x7d' parts ++ rest)) read =
      .ok (.mapping (collect (((field :: fields).map fun (k, v) => (.text k, v)).reverse ++ read)),
        rest) := by
  induction hparts generalizing part field fuel read with
  | nil =>
    obtain ⟨fuel, rfl⟩ : ∃ less, fuel = less + 1 := ⟨fuel - 1, by omega⟩
    obtain ⟨cs, rfl, hvalue⟩ := hpart
    have hname := length_stringText_le field.1
    have hread := hvalue.reads fuel _ (by simp [followers] at hfuel; omega)
      (h.stops_followers (show isStop '\x7d' = true by decide) [] rest)
    rw [List.append_assoc, List.cons_append, List.cons_append,
      members_of_value hread (by simp [followers] at hfuel; omega) (hvalue.skip_append _),
      h.skip_last (by decide)]
    rfl
  | @cons next after parts fields hnext _ ih =>
    obtain ⟨fuel, rfl⟩ : ∃ less, fuel = less + 1 := ⟨fuel - 1, by omega⟩
    obtain ⟨cs, rfl, hvalue⟩ := hpart
    have hname := length_stringText_le field.1
    have hread := hvalue.reads fuel _ (by simp [followers] at hfuel; omega)
      (h.stops_followers (show isStop '\x7d' = true by decide) (next :: parts) rest)
    rw [List.append_assoc, List.cons_append, List.cons_append,
      members_of_value hread (by simp [followers] at hfuel; omega) (hvalue.skip_append _),
      followers_cons_append, skip_cons (by decide)]
    simp only
    rw [skip_append h.between_blank, hnext.skip_append,
      ih hnext fuel (by simp [followers] at hfuel ⊢; omega) ((.text field.1, field.2) :: read)]
    simp

end Spaced

theorem same_text (s t : String) : Atom.same (.text s) (.text t) = decide (s = t) := by
  simp [Atom.same, Value.number?]

theorem assign_of_new {fields : List (String × Value)} {name : String}
    (hnew : name ∉ fields.map (·.1)) (v : Value) :
    assign (fields.map fun (k, v) => (.text k, v)) (.text name) v =
      (fields ++ [(name, v)]).map fun (k, v) => (.text k, v) := by
  rw [assign, if_neg]
  · simp
  · rw [List.any_map, List.any_eq_true]
    rintro ⟨field, hfield, hsame⟩
    obtain rfl : field.1 = name := by simpa [same_text] using hsame
    exact hnew (List.mem_map_of_mem hfield)

/-- Entries with distinct names stay in order. -/
theorem collect_reverse {fields : List (String × Value)} (hnames : (fields.map (·.1)).Nodup) :
    collect (fields.map fun (k, v) => (.text k, v)).reverse = fields.map fun (k, v) => (.text k, v) := by
  induction fields using List.reverseRecOn with
  | nil => rfl
  | append_singleton fields field ih =>
    rw [List.map_append, List.nodup_append] at hnames
    have hnew : field.1 ∉ fields.map (·.1) := by
      intro hmem
      exact hnames.2.2 _ hmem _ (by simp) rfl
    rw [List.map_append, List.reverse_append]
    change assign (collect (fields.map fun (k, v) => (.text k, v)).reverse) (.text field.1) field.2 = _
    rw [ih hnames.1, assign_of_new hnew, List.map_append]

theorem breakLine_toList (indent : Option Nat) (depth : Nat) (otherwise : String) :
    (breakLine indent depth otherwise).toList = otherwise.toList ∨
      ∃ n, (breakLine indent depth otherwise).toList = '\n' :: List.replicate n ' ' := by
  cases indent with
  | none => exact .inl rfl
  | some n => exact .inr ⟨n * depth, String.toList_ofList⟩

theorem breakLine_blank (indent : Option Nat) (depth : Nat) {otherwise : String}
    (hother : ∀ c ∈ otherwise.toList, isSpace c = true) :
    ∀ c ∈ (breakLine indent depth otherwise).toList, isSpace c = true := by
  obtain heq | ⟨n, heq⟩ := breakLine_toList indent depth otherwise
  · rwa [heq]
  · rw [heq]
    intro c hc
    obtain rfl | hc := List.mem_cons.mp hc
    · decide
    · rw [List.eq_of_mem_replicate hc]
      decide

theorem spaced_breakLine (indent : Option Nat) (depth : Nat) :
    Spaced (breakLine indent (depth + 1) " ").toList (breakLine indent depth "").toList := by
  refine ⟨breakLine_blank _ _ (by simp [isSpace]), breakLine_blank _ _ (by simp), ?_⟩
  obtain heq | ⟨n, heq⟩ := breakLine_toList indent depth ""
  · simp [heq]
  · simp [heq, isStop]

/-- The text between the bracket that opens and what follows the first part. -/
def opened (indent : Option Nat) (depth : Nat) (part : String) : List Char :=
  (breakLine indent (depth + 1) "").toList ++ part.toList

/-- What follows the first part, on lines as deep as the brackets are. -/
def closed (indent : Option Nat) (depth : Nat) (ending : Char) (parts : List String) : List Char :=
  followers (breakLine indent (depth + 1) " ").toList (breakLine indent depth "").toList ending
    (parts.map String.toList)

theorem toList_bracketed_nil (indent : Option Nat) (depth : Nat) (opening ending : Char) :
    (bracketed indent depth (String.singleton opening) (String.singleton ending) []).toList =
      [opening, ending] := by
  simp [bracketed]

theorem toList_bracketed_cons (indent : Option Nat) (depth : Nat) (opening ending : Char)
    (part : String) (parts : List String) :
    (bracketed indent depth (String.singleton opening) (String.singleton ending)
      (part :: parts)).toList =
      opening :: (opened indent depth part ++ closed indent depth ending parts) := by
  have hcomma : ("," ++ breakLine indent (depth + 1) " ").toList =
      ',' :: (breakLine indent (depth + 1) " ").toList := by simp
  rw [opened, List.append_assoc, closed, ← intercalate_append, ← hcomma]
  simp [bracketed, String.toList_intercalate]

theorem itemTexts_eq_map (indent : Option Nat) (depth : Nat) (vs : List Value) :
    itemTexts indent depth vs = vs.map (valueText indent depth) := by
  induction vs with
  | nil => rfl
  | cons v vs ih => rw [itemTexts, ih, List.map_cons]

/-- The text of a field of a mapping. -/
def fieldText (indent : Option Nat) (depth : Nat) (field : String × Value) : String :=
  stringText field.1 ++ ": " ++ valueText indent depth field.2

theorem memberTexts_eq_map (indent : Option Nat) (depth : Nat) (fields : List (String × Value)) :
    memberTexts indent depth (fields.map fun (k, v) => (.text k, v)) =
      fields.map (fieldText indent depth) := by
  induction fields with
  | nil => rfl
  | cons field fields ih =>
    rw [List.map_cons, memberTexts, ih]
    rfl

theorem value_openList {rest cs : List Char} {c : Char} (hskip : skip rest = c :: cs) (hc : c ≠ ']')
    (fuel : Nat) : value (fuel + 1) ('[' :: rest) = items fuel (c :: cs) [] := by
  rw [value.eq_def]
  simp only [hskip]
  split
  · rename_i heq
    exact absurd (List.cons.inj heq).1 hc
  · rfl

theorem value_openMapping {rest cs : List Char} {c : Char} (hskip : skip rest = c :: cs)
    (hc : c ≠ '\x7d') (fuel : Nat) :
    value (fuel + 1) ('\x7b' :: rest) = members fuel (c :: cs) [] := by
  rw [value.eq_def]
  simp only [hskip]
  split
  · rename_i heq
    exact absurd (List.cons.inj heq).1 hc
  · rfl

theorem skip_opened (indent : Option Nat) (depth : Nat) {part : String} {rest : List Char}
    (hpart : skip (part.toList ++ rest) = part.toList ++ rest) :
    skip (opened indent depth part ++ rest) = part.toList ++ rest := by
  rw [opened, List.append_assoc, skip_append (breakLine_blank indent _ (by simp)), hpart]

theorem spells_list {indent : Option Nat} {depth : Nat} {vs : List Value}
    (hitems : ∀ v ∈ vs, Spells (valueText indent (depth + 1) v).toList v) :
    Spells (valueText indent depth (.list vs)).toList (.list vs) := by
  have hbrackets : valueText indent depth (.list vs) =
      bracketed indent depth (String.singleton '[') (String.singleton ']')
        (vs.map (valueText indent (depth + 1))) := by
    rw [valueText, itemTexts_eq_map]
    rfl
  rw [hbrackets]
  cases vs with
  | nil =>
    rw [List.map_nil, toList_bracketed_nil]
    refine ⟨⟨'[', _, rfl, by decide, by decide⟩, fun fuel rest hfuel _ => ?_⟩
    obtain ⟨fuel, rfl⟩ : ∃ less, fuel = less + 1 := ⟨fuel - 1, by omega⟩
    rfl
  | cons v vs =>
    have hpart := hitems v List.mem_cons_self
    have hparts : List.Forall₂ Spells ((vs.map (valueText indent (depth + 1))).map String.toList) vs := by
      rw [List.map_map, List.forall₂_map_left_iff, List.forall₂_same]
      exact fun w hw => hitems w (List.mem_cons_of_mem _ hw)
    rw [List.map_cons, toList_bracketed_cons]
    refine ⟨⟨'[', _, rfl, by decide, by decide⟩, fun fuel rest hfuel _ => ?_⟩
    obtain ⟨fuel, rfl⟩ : ∃ less, fuel = less + 1 := ⟨fuel - 1, by omega⟩
    have hread := (spaced_breakLine indent depth).items_eq hpart hparts fuel rest
      (by simp [opened, closed] at hfuel ⊢; omega) []
    obtain ⟨c, tail, hcs, -, hclose⟩ := hpart.opens
    have hskip := skip_opened indent depth (hpart.skip_append
      (closed indent depth ']' (vs.map (valueText indent (depth + 1))) ++ rest))
    rw [List.cons_append, List.append_assoc]
    rw [hcs, List.cons_append] at hskip hread
    rw [value_openList hskip hclose]
    exact hread

theorem spells_record {indent : Option Nat} {depth : Nat} {fields : List (String × Value)}
    (hnames : (fields.map (·.1)).Nodup)
    (hvalues : ∀ field ∈ fields, Spells (valueText indent (depth + 1) field.2).toList field.2) :
    Spells (valueText indent depth (.record fields)).toList (.record fields) := by
  have hbrackets : valueText indent depth (.record fields) =
      bracketed indent depth (String.singleton '\x7b') (String.singleton '\x7d')
        (fields.map (fieldText indent (depth + 1))) := by
    rw [Value.record, valueText, memberTexts_eq_map]
    rfl
  have hspells : ∀ field ∈ fields, SpellsField (fieldText indent (depth + 1) field).toList field := by
    intro field hfield
    refine ⟨_, ?_, hvalues field hfield⟩
    simp [fieldText]
  rw [hbrackets]
  cases fields with
  | nil =>
    rw [List.map_nil, toList_bracketed_nil]
    refine ⟨⟨'\x7b', _, rfl, by decide, by decide⟩, fun fuel rest hfuel _ => ?_⟩
    obtain ⟨fuel, rfl⟩ : ∃ less, fuel = less + 1 := ⟨fuel - 1, by omega⟩
    rfl
  | cons field fields =>
    have hpart := hspells field List.mem_cons_self
    have hparts : List.Forall₂ SpellsField ((fields.map (fieldText indent (depth + 1))).map String.toList)
        fields := by
      rw [List.map_map, List.forall₂_map_left_iff, List.forall₂_same]
      exact fun other hother => hspells other (List.mem_cons_of_mem _ hother)
    rw [List.map_cons, toList_bracketed_cons]
    refine ⟨⟨'\x7b', _, rfl, by decide, by decide⟩, fun fuel rest hfuel _ => ?_⟩
    obtain ⟨fuel, rfl⟩ : ∃ less, fuel = less + 1 := ⟨fuel - 1, by omega⟩
    have hread := (spaced_breakLine indent depth).members_eq hpart hparts fuel rest
      (by simp [opened, closed] at hfuel ⊢; omega) []
    have hskip := skip_opened indent depth (hpart.skip_append
      (closed indent depth '\x7d' (fields.map (fieldText indent (depth + 1))) ++ rest))
    obtain ⟨tail, hcs⟩ : ∃ tail, (fieldText indent (depth + 1) field).toList = '"' :: tail := by
      simp [fieldText, toList_stringText]
    rw [List.cons_append, List.append_assoc]
    rw [hcs, List.cons_append] at hskip hread
    rw [value_openMapping hskip (by decide)]
    rw [List.append_nil, collect_reverse hnames] at hread
    exact hread

/-- A legible value is read back from its text, at any depth of a document. -/
theorem Legible.spells {v : Value} (h : Legible v) (indent : Option Nat) (depth : Nat) :
    Spells (valueText indent depth v).toList v := by
  induction h generalizing depth with
  | null => exact spells_of_plain (show plain "null".toList = .ok (.null, []) from rfl)
  | bool b =>
    cases b with
    | false => exact spells_of_plain (show plain "false".toList = .ok (.bool false, []) from rfl)
    | true => exact spells_of_plain (show plain "true".toList = .ok (.bool true, []) from rfl)
  | int n => exact spells_of_plain (plain_toString n)
  | float hread => exact spells_of_plain hread.plain_floatText
  | text s => exact spells_stringText s
  | list _ ih => exact spells_list fun v hv => ih v hv (depth + 1)
  | record hnames _ ih => exact spells_record hnames fun field hfield => ih field hfield (depth + 1)

end NetAtlas.Json
