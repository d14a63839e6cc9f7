import NetAtlas.Proofs.Settings.Accepted
import NetAtlas.Settings.File

/-!
What becomes of a document that settings are read from. What does not fit a rule is refused in the
words of the rule, but for two kinds of values: paths that are no texts, and values that a check
compares although they cannot be put in order. None of these are accepted either.
-/

namespace NetAtlas

/-- The fault is a refusal in the words of a rule. -/
def Fault.IsRefusal (f : Fault) : Prop := ∃ reason, f = .rejected reason

namespace Settings

section Sections

variable {es part : List (Atom × Value)} {name : String}

theorem failsOnly_rejected {α : Type} (reason : String) :
    FailsOnly Fault.IsRefusal (.error (.rejected reason) : Read α) :=
  failsOnly_error ⟨reason, rfl⟩

theorem failsOnly_sectionOf : FailsOnly Fault.IsRefusal (sectionOf es name) := by
  rw [sectionOf.eq_def]
  split
  · exact failsOnly_ok []
  · split
    · exact failsOnly_ok []
    · split
      · exact failsOnly_ok _
      · exact failsOnly_rejected _

/-- What is read as a section is the mapping of that name. All that counts as false is read as an
    empty section, whether it is a mapping or not. -/
theorem sectionOf_eq_ok_iff :
    sectionOf es name = .ok part ↔ fieldOf? es name = some (.mapping part) ∨
      part = [] ∧ ∀ v, fieldOf? es name = some v → v.truthy = false := by
  have hempty : [] = part ↔ part = [] := eq_comm
  cases hfield : fieldOf? es name with
  | none => simp [sectionOf, hfield, hempty]
  | some v =>
    cases htruthy : v.truthy with
    | false =>
      cases v with
      | mapping entries =>
        obtain rfl : entries = [] := by simpa [Value.truthy] using htruthy
        simp [sectionOf, hfield, htruthy, hempty]
      | _ => simp [sectionOf, hfield, htruthy, hempty]
    | true =>
      cases v with
      | mapping entries => simp [sectionOf, hfield, htruthy]
      | _ => simp [sectionOf, hfield, htruthy]

theorem exists_sectionOf_iff : (∃ part, sectionOf es name = .ok part) ↔ RecordAt es name := by
  constructor
  · rintro ⟨part, hpart⟩ v hv htruthy
    rcases sectionOf_eq_ok_iff.mp hpart with hmapping | ⟨_, hfalse⟩
    · obtain rfl := Option.some.inj (hv.symm.trans hmapping)
      exact .mapping trivial
    · exact absurd htruthy (by simp [hfalse v hv])
  · intro h
    cases hfield : fieldOf? es name with
    | none => exact ⟨[], sectionOf_eq_ok_iff.mpr (.inr ⟨rfl, by simp [hfield]⟩)⟩
    | some v =>
      cases htruthy : v.truthy with
      | false => exact ⟨[], sectionOf_eq_ok_iff.mpr (.inr ⟨rfl, by simp [hfield, htruthy]⟩)⟩
      | true =>
        cases h v hfield htruthy with
        | mapping _ => exact ⟨_, sectionOf_eq_ok_iff.mpr (.inl hfield)⟩

theorem failsOnly_checkNames (name kind : String) (known : List String) :
    FailsOnly Fault.IsRefusal (checkNames name kind known part) := by
  rw [checkNames.eq_def]
  split
  · exact failsOnly_rejected _
  · split
    · exact failsOnly_ok ()
    · exact failsOnly_rejected _

theorem failsOnly_projectionOf : FailsOnly Fault.IsRefusal (projectionOf part) :=
  (failsOnly_checkNames _ _ _).bind fun _ _ => failsOnly_ok _

theorem failsOnly_serviceOf : FailsOnly Fault.IsRefusal (serviceOf part) :=
  (failsOnly_checkNames _ _ _).bind fun _ _ => failsOnly_ok _

theorem failsOnly_outputOf : FailsOnly Fault.IsRefusal (outputOf part) :=
  (failsOnly_checkNames _ _ _).bind fun _ _ => failsOnly_ok _

theorem failsOnly_rangeOf (name : String) (absent : Value × Value) :
    FailsOnly Fault.IsRefusal (rangeOf part name absent) := by
  rw [rangeOf.eq_def]
  split
  · exact failsOnly_ok _
  · exact failsOnly_ok _
  · exact failsOnly_rejected _

theorem failsOnly_bandwidthsOf : FailsOnly Fault.IsRefusal (bandwidthsOf part) := by
  rw [bandwidthsOf.eq_def]
  split
  · exact failsOnly_ok _
  · exact failsOnly_ok _
  · exact failsOnly_rejected _

theorem failsOnly_synthesisOf : FailsOnly Fault.IsRefusal (synthesisOf part) := by
  rw [synthesisOf]
  refine (failsOnly_rangeOf _ _).bind fun weights _ => ?_
  refine (failsOnly_rangeOf _ _).bind fun costs _ => ?_
  refine (failsOnly_rangeOf _ _).bind fun linkCounts _ => ?_
  refine failsOnly_bandwidthsOf.bind fun bandwidths _ => ?_
  exact (failsOnly_checkNames _ _ _).bind fun _ _ => failsOnly_ok _

end Sections

section Sources

variable {es part : List (Atom × Value)} {name : String}

/-- The files of the data sources are named by texts. No map has to be named. -/
structure Located (part : List (Atom × Value)) : Prop where
  gazetteer : ∀ v, fieldOf? part "gazetteer" = some v → ∃ s, v = .text s
  map : ∀ v, fieldOf? part "map_descriptor" = some v → v = .null ∨ ∃ s, v = .text s

theorem setting_iff {p : Value → Prop} {absent : Value} (habsent : p absent) :
    p (setting part name absent) ↔ ∀ v, fieldOf? part name = some v → p v := by
  rw [setting]
  cases fieldOf? part name with
  | none => simp [habsent]
  | some v => simp

theorem located_iff :
    Located part ↔ (∃ s, setting part "gazetteer" (.text "worldcities.csv") = .text s) ∧
      (setting part "map_descriptor" .null = .null ∨
        ∃ s, setting part "map_descriptor" .null = .text s) := by
  rw [setting_iff (p := fun v => ∃ s, v = .text s) ⟨_, rfl⟩,
    setting_iff (p := fun v => v = .null ∨ ∃ s, v = .text s) (.inl rfl)]
  exact ⟨fun h => ⟨h.gazetteer, h.map⟩, fun h => ⟨h.1, h.2⟩⟩

theorem pathOf_cases (v : Value) :
    (∃ s, v = .text s ∧ pathOf v = .ok (Path.normal s)) ∨
      (∀ s, v ≠ .text s) ∧ pathOf v = .error .wrongType := by
  rw [pathOf.eq_def]
  split
  · exact .inl ⟨_, rfl, rfl⟩
  · rename_i hother
    exact .inr ⟨hother, rfl⟩

/-- The data sources can be read as long as they are named by texts. Otherwise the fault is one of
    type. -/
theorem sourcesOf_cases (part : List (Atom × Value)) :
    Located part ∧ (∃ sources, sourcesOf part = .ok sources) ∨
      ¬ Located part ∧ sourcesOf part = .error .wrongType := by
  rw [located_iff, sourcesOf]
  obtain ⟨s, hs, hpath⟩ | ⟨hother, hpath⟩ :=
    pathOf_cases (setting part "gazetteer" (.text "worldcities.csv"))
  · rw [hpath]
    cases setting part "map_descriptor" .null with
    | atom a =>
      cases a with
      | null => exact .inl ⟨⟨⟨s, hs⟩, .inl rfl⟩, _, rfl⟩
      | text map => exact .inl ⟨⟨⟨s, hs⟩, .inr ⟨map, rfl⟩⟩, _, rfl⟩
      | _ => exact .inr ⟨by simp, rfl⟩
    | _ => exact .inr ⟨by simp, rfl⟩
  · rw [hpath]
    exact .inr ⟨fun h => h.1.elim hother, rfl⟩

/-- The data sources are a mapping, in which a file is named by what is no text. -/
def Misplaced (es : List (Atom × Value)) : Prop :=
  ∃ part, fieldOf? es "data_sources" = some (.mapping part) ∧ ¬ Located part

theorem located_nil : Located [] := ⟨by simp [fieldOf?], by simp [fieldOf?]⟩

theorem misplaced_iff :
    Misplaced es ↔ ∃ part, sectionOf es "data_sources" = .ok part ∧ ¬ Located part := by
  constructor
  · rintro ⟨part, hpart, hlost⟩
    exact ⟨part, sectionOf_eq_ok_iff.mpr (.inl hpart), hlost⟩
  · rintro ⟨part, hpart, hlost⟩
    rcases sectionOf_eq_ok_iff.mp hpart with hmapping | ⟨rfl, _⟩
    · exact ⟨part, hmapping, hlost⟩
    · exact absurd located_nil hlost

end Sources

/-- The sections that settings have. -/
def sectionNames : List String := ["data_sources", "projection", "synthesis", "service", "output"]

section Entries

variable {es : List (Atom × Value)} {kind : Fault → Prop}

theorem ofEntries_of_misplaced (h : Misplaced es) : ofEntries es = .error .wrongType := by
  obtain ⟨part, hpart, hlost⟩ := misplaced_iff.mp h
  obtain ⟨hlocated, _⟩ | ⟨_, hfault⟩ := sourcesOf_cases part
  · exact absurd hlocated hlost
  · rw [ofEntries, hpart]
    change sourcesOf part >>= _ = _
    rw [hfault]
    rfl

theorem failsOnly_ofEntries (h : ¬ Misplaced es) :
    FailsOnly Fault.IsRefusal (ofEntries es) := by
  have hsources : FailsOnly Fault.IsRefusal (sectionOf es "data_sources" >>= sourcesOf) := by
    refine failsOnly_sectionOf.bind fun part hpart => ?_
    obtain ⟨_, sources, hread⟩ | ⟨hlost, _⟩ := sourcesOf_cases part
    · exact hread ▸ failsOnly_ok sources
    · exact absurd (misplaced_iff.mpr ⟨part, hpart, hlost⟩) h
  rw [ofEntries]
  refine hsources.bind fun sources _ => ?_
  refine (failsOnly_sectionOf.bind fun _ _ => failsOnly_projectionOf).bind fun projection _ => ?_
  refine (failsOnly_sectionOf.bind fun _ _ => failsOnly_synthesisOf).bind fun synthesis _ => ?_
  refine (failsOnly_sectionOf.bind fun _ _ => failsOnly_serviceOf).bind fun service _ => ?_
  refine (failsOnly_sectionOf.bind fun _ _ => failsOnly_outputOf).bind fun output _ => ?_
  exact failsOnly_ok _

/-- Settings come from sections that are mappings, or count as false. -/
theorem recordAt_of_ofEntries {s : Settings} (h : ofEntries es = .ok s) :
    ∀ name ∈ sectionNames, RecordAt es name := by
  have hrecord {α : Type} {name : String} {read : List (Atom × Value) → Read α} {a : α}
      (hread : sectionOf es name >>= read = .ok a) : RecordAt es name := by
    obtain ⟨part, hpart, _⟩ := bind_eq_ok_iff.mp hread
    exact exists_sectionOf_iff.mp ⟨part, hpart⟩
  obtain ⟨_, hsources, h⟩ := bind_eq_ok_iff.mp h
  obtain ⟨_, hprojection, h⟩ := bind_eq_ok_iff.mp h
  obtain ⟨_, hsynthesis, h⟩ := bind_eq_ok_iff.mp h
  obtain ⟨_, hservice, h⟩ := bind_eq_ok_iff.mp h
  obtain ⟨_, houtput, _⟩ := bind_eq_ok_iff.mp h
  simp only [sectionNames, List.forall_mem_cons]
  exact ⟨hrecord hsources, hrecord hprojection, hrecord hsynthesis, hrecord hservice,
    hrecord houtput, by simp⟩

/-- The sections of a document give settings, or one of them is refused, but for misplaced sources. -/
theorem ofEntries_cases (es : List (Atom × Value)) :
    Misplaced es ∧ ofEntries es = .error .wrongType ∨
      ¬ Misplaced es ∧ (∃ reason, ofEntries es = .error (.rejected reason)) ∨
      ¬ Misplaced es ∧ (∀ name ∈ sectionNames, RecordAt es name) ∧ ∃ s, ofEntries es = .ok s := by
  by_cases hmisplaced : Misplaced es
  · exact .inl ⟨hmisplaced, ofEntries_of_misplaced hmisplaced⟩
  · cases hread : ofEntries es with
    | error f =>
      obtain ⟨reason, rfl⟩ := failsOnly_ofEntries hmisplaced f hread
      exact .inr (.inl ⟨hmisplaced, reason, rfl⟩)
    | ok s => exact .inr (.inr ⟨hmisplaced, recordAt_of_ofEntries hread, s, rfl⟩)

end Entries

/-- Every value can be put in order with what the checks compare it with: numbers where they go by a
    fixed bound, and otherwise the two values of a pair with each other. -/
structure Comparable (s : Settings) : Prop where
  viewWidth : ∃ n, s.projection.viewWidth.number? = some n
  viewHeight : ∃ n, s.projection.viewHeight.number? = some n
  maxLatitude : ∃ n, s.projection.maxLatitude.number? = some n
  precision : ∃ n, s.projection.precision.number? = some n
  divisor : ∃ n, s.synthesis.divisor.number? = some n
  weights : s.synthesis.weights.1.Comparable s.synthesis.weights.2
  costs : s.synthesis.costs.1.Comparable s.synthesis.costs.2
  linkCounts : (∃ n, s.synthesis.linkCounts.1.number? = some n) ∧
    s.synthesis.linkCounts.1.Comparable s.synthesis.linkCounts.2
  thresholds : s.synthesis.warning.Comparable s.synthesis.healthy
  timeout : ∃ n, s.service.timeout.number? = some n
  indent : ∃ n, s.output.indent.number? = some n
  dpi : ∃ n, s.output.dpi.number? = some n

section Checks

variable {kind : Fault → Prop} {first second bad : Read Bool} {reason : String}

theorem failsOnly_orElseAsk (hfirst : FailsOnly kind first) (hsecond : FailsOnly kind second) :
    FailsOnly kind (orElseAsk first second) :=
  hfirst.bind fun found _ =>
    match found with
    | true => failsOnly_ok true
    | false => hsecond

theorem failsOnly_refuseIf (hrefusal : ∀ f : Fault, f.IsRefusal → kind f) (hbad : FailsOnly kind bad) :
    FailsOnly kind (refuseIf bad reason) :=
  hbad.bind fun found _ =>
    match found with
    | true => failsOnly_error (hrefusal _ ⟨reason, rfl⟩)
    | false => failsOnly_ok ()

/-- The checks refuse what does not fit a rule. Anything else that ends them is a comparison, and one
    of values that cannot be put in order. -/
theorem failsOnly_check {s : Settings} (hrefusal : ∀ f : Fault, f.IsRefusal → kind f)
    (h : (∀ sign a b, kind (.incomparable sign a b)) ∨ s.Comparable) : FailsOnly kind s.check := by
  have hask (way : Comparison) {v w : Value} (hvw : s.Comparable → v.Comparable w) :
      FailsOnly kind (Value.compares way v w) :=
    Value.failsOnly_compares (h.imp_right hvw)
  have hbound (way : Comparison) (n : Int) {v : Value}
      (hv : s.Comparable → ∃ m, v.number? = some m) :
      FailsOnly kind (Value.compares way v (.int n)) :=
    hask way fun hs => Value.comparable_int_right_iff.mpr (hv hs)
  have hpass {b : Bool} : FailsOnly kind (.ok b) := failsOnly_ok b
  have hprojection : FailsOnly kind (checkProjection s.projection) := by
    have hview := failsOnly_orElseAsk (hbound .atMost 0 (·.viewWidth))
      (hbound .atMost 0 (·.viewHeight))
    have habove : FailsOnly kind (Value.less zero s.projection.maxLatitude) :=
      hask .less fun hs => Value.comparable_int_left_iff.mpr hs.maxLatitude
    have hlatitude := failsOnly_orElseAsk (habove.map (!·))
      ((hbound .less 90 (·.maxLatitude)).map (!·))
    refine (failsOnly_refuseIf hrefusal hview).bind fun _ _ => ?_
    refine (failsOnly_refuseIf hrefusal hlatitude).bind fun _ _ => ?_
    exact failsOnly_refuseIf hrefusal (hbound .less 0 (·.precision))
  have hsynthesis : FailsOnly kind (checkSynthesis s.synthesis) := by
    have hcounts := failsOnly_orElseAsk (hbound .less 1 (·.linkCounts.1))
      (hask .greater (·.linkCounts.2))
    refine (failsOnly_refuseIf hrefusal (hbound .atMost 0 (·.divisor))).bind fun _ _ => ?_
    refine (failsOnly_refuseIf hrefusal (hask .greater (·.weights))).bind fun _ _ => ?_
    refine (failsOnly_refuseIf hrefusal (hask .greater (·.costs))).bind fun _ _ => ?_
    refine (failsOnly_refuseIf hrefusal hcounts).bind fun _ _ => ?_
    refine (failsOnly_refuseIf hrefusal hpass).bind fun _ _ => ?_
    exact failsOnly_refuseIf hrefusal ((hask .atMost (·.thresholds)).map (!·))
  have hservice : FailsOnly kind (checkService s.service) :=
    (failsOnly_refuseIf hrefusal (hbound .atMost 0 (·.timeout))).bind fun _ _ =>
      failsOnly_refuseIf hrefusal hpass
  have houtput : FailsOnly kind (checkOutput s.output) :=
    (failsOnly_refuseIf hrefusal (hbound .less 0 (·.indent))).bind fun _ _ =>
      failsOnly_refuseIf hrefusal (hbound .atMost 0 (·.dpi))
  exact hprojection.bind fun _ _ => hsynthesis.bind fun _ _ => hservice.bind fun _ _ => houtput

theorem number_of_compares {way : Comparison} {v : Value} {n : Int} {answer : Bool}
    (h : Value.compares way v (.int n) = .ok answer) : ∃ m, v.number? = some m :=
  Value.comparable_int_right_iff.mp (Value.comparable_of_compares h)

/-- Only settings that can be compared pass the checks. -/
theorem comparable_of_check {s : Settings} (h : s.check = .ok ()) : s.Comparable := by
  obtain ⟨_, hprojection, h⟩ := bind_eq_ok_iff.mp h
  obtain ⟨_, hsynthesis, h⟩ := bind_eq_ok_iff.mp h
  obtain ⟨_, hservice, houtput⟩ := bind_eq_ok_iff.mp h
  obtain ⟨_, hview, hprojection⟩ := bind_eq_ok_iff.mp hprojection
  obtain ⟨_, hlatitude, hprecision⟩ := bind_eq_ok_iff.mp hprojection
  obtain ⟨_, htimeout, _⟩ := bind_eq_ok_iff.mp hservice
  obtain ⟨_, hindent, hdpi⟩ := bind_eq_ok_iff.mp houtput
  obtain ⟨hwidth, hheight⟩ := of_orElseAsk (eq_ok_of_refuseIf hview)
  obtain ⟨_, hbelow⟩ := of_orElseAsk (eq_ok_of_refuseIf hlatitude)
  obtain ⟨_, hbelow, _⟩ := map_eq_ok_iff.mp hbelow
  have hchecked := checked_of_checkSynthesis hsynthesis
  obtain ⟨_, hthresholds, _⟩ := map_eq_ok_iff.mp hchecked.thresholds
  exact {
    viewWidth := number_of_compares hwidth
    viewHeight := number_of_compares hheight
    maxLatitude := number_of_compares hbelow
    precision := number_of_compares (eq_ok_of_refuseIf hprecision)
    divisor := number_of_compares hchecked.divisor
    weights := Value.comparable_of_compares hchecked.weights
    costs := Value.comparable_of_compares hchecked.costs
    linkCounts := ⟨number_of_compares hchecked.linkCounts.1,
      Value.comparable_of_compares hchecked.linkCounts.2⟩
    thresholds := Value.comparable_of_compares hthresholds
    timeout := number_of_compares (eq_ok_of_refuseIf htimeout)
    indent := number_of_compares (eq_ok_of_refuseIf hindent)
    dpi := number_of_compares (eq_ok_of_refuseIf hdpi) }

/-- Settings pass the checks, or a rule refuses them, or they have values that cannot be compared. -/
theorem check_cases (s : Settings) :
    s.Comparable ∧ s.check = .ok () ∨ (∃ reason, s.check = .error (.rejected reason)) ∨
      ¬ s.Comparable ∧ ∃ sign v w, s.check = .error (.incomparable sign v w) := by
  cases hcheck : s.check with
  | ok _ => exact .inl ⟨comparable_of_check hcheck, rfl⟩
  | error f =>
    have hfails : FailsOnly (fun f => f.IsRefusal ∨
        ¬ s.Comparable ∧ ∃ sign v w, f = .incomparable sign v w) s.check :=
      failsOnly_check (fun _ => .inl) ((Classical.em s.Comparable).symm.imp_left
        fun hs sign v w => .inr ⟨hs, sign, v, w, rfl⟩)
    obtain ⟨reason, rfl⟩ | ⟨hs, sign, v, w, rfl⟩ := hfails f hcheck
    · exact .inr (.inl ⟨reason, rfl⟩)
    · exact .inr (.inr ⟨hs, sign, v, w, rfl⟩)

end Checks

/-- The sections of a document. An empty document has none. -/
def rootOf? : Value → Option (List (Atom × Value))
  | .null => some []
  | .mapping es => some es
  | _ => none

theorem ofDocument_of_root {document : Value} {es : List (Atom × Value)}
    (hroot : rootOf? document = some es) : ofDocument document = read es := by
  rw [rootOf?.eq_def] at hroot
  split at hroot
  · obtain rfl := Option.some.inj hroot
    rfl
  · obtain rfl := Option.some.inj hroot
    rfl
  · cases hroot

theorem ofDocument_of_rootless {document : Value} (hroot : rootOf? document = none) :
    ∃ reason, (ofDocument document).1 = .error (.rejected reason) := by
  rw [ofDocument.eq_def]
  split
  · cases hroot
  · cases hroot
  · exact ⟨_, rfl⟩

theorem read_of_error {es : List (Atom × Value)} {f : Fault} (h : ofEntries es = .error f) :
    (read es).1 = .error f := by
  rw [read, h]

theorem read_of_ok {es : List (Atom × Value)} {s : Settings} (h : ofEntries es = .ok s) :
    (read es).1 = (fun _ => s) <$> s.check := by
  rw [read, h]

/-- What becomes of a document that settings are read from. -/
inductive Outcome (document : Value) : Read Settings → Prop
  | accepted {es : List (Atom × Value)} {s : Settings} (hroot : rootOf? document = some es)
      (hread : ofEntries es = .ok s) (hsections : ∀ name ∈ sectionNames, RecordAt es name)
      (hplaced : ¬ Misplaced es) (hcomparable : s.Comparable) : Outcome document (.ok s)
  | refused (reason : String) : Outcome document (.error (.rejected reason))
  | misplaced {es : List (Atom × Value)} (hroot : rootOf? document = some es)
      (h : Misplaced es) : Outcome document (.error .wrongType)
  | incomparable {es : List (Atom × Value)} {s : Settings} (hroot : rootOf? document = some es)
      (hread : ofEntries es = .ok s) (h : ¬ s.Comparable) (sign : String) (v w : Value) :
      Outcome document (.error (.incomparable sign v w))

theorem outcome_ofDocument (document : Value) : Outcome document (ofDocument document).1 := by
  cases hroot : rootOf? document with
  | none =>
    obtain ⟨reason, hrefused⟩ := ofDocument_of_rootless hroot
    exact hrefused ▸ .refused reason
  | some es =>
    rw [ofDocument_of_root hroot]
    obtain ⟨hmisplaced, hread⟩ | ⟨_, reason, hread⟩ | ⟨hplaced, hsections, s, hread⟩ :=
      ofEntries_cases es
    · exact read_of_error hread ▸ .misplaced hroot hmisplaced
    · exact read_of_error hread ▸ .refused reason
    · rw [read_of_ok hread]
      obtain ⟨hs, hcheck⟩ | ⟨reason, hcheck⟩ | ⟨hs, sign, v, w, hcheck⟩ := check_cases s
      · exact hcheck ▸ .accepted hroot hread hsections hplaced hs
      · exact hcheck ▸ .refused reason
      · exact hcheck ▸ .incomparable hroot hread hs sign v w

end Settings

end NetAtlas
