import NetAtlas.Gazetteer.City
import NetAtlas.Proofs.FloatOrder

/-!
The order in which cities outrank one another. Each city has a standing in a linear order, and of
two cities the one of higher standing outranks the other. So outranking is a strict weak order, in
which the cities of one standing are tied.
-/

namespace NetAtlas.City

/-- Where a population stands: an unknown one below all known ones. -/
def populationPlace : Option Float → WithBot (Int ×ₗ Int ×ₗ Int)
  | none => ⊥
  | some x => (FloatOrder.place x : WithBot (Int ×ₗ Int ×ₗ Int))

/-- What the prominence of a city rests on, in order of weight. -/
def standing (c : City) : Bool ×ₗ WithBot (Int ×ₗ Int ×ₗ Int) ×ₗ Bool :=
  toLex (c.isNationalCapital, toLex (populationPlace c.population, c.isRegionalCapital))

/-- The population is a number, if it is known at all. -/
def Counted (c : City) : Prop := ∀ p, c.population = some p → p.isNaN = false

theorem populationsDiffer_iff {a b : Option Float} (ha : ∀ p, a = some p → p.isNaN = false)
    (hb : ∀ p, b = some p → p.isNaN = false) :
    populationsDiffer a b = true ↔ populationPlace a ≠ populationPlace b := by
  rcases a with _ | p <;> rcases b with _ | q
  · simp [populationsDiffer]
  · simp [populationsDiffer, populationPlace]
  · simp [populationsDiffer, populationPlace]
  · have hplace := FloatOrder.beq_iff_place_eq (ha p rfl) (hb q rfl)
    simp only [populationsDiffer, populationPlace, Bool.not_eq_true', ne_eq, WithBot.coe_inj]
    rw [← hplace, Bool.not_eq_true]

theorem populationAbove_iff {a b : Option Float} (ha : ∀ p, a = some p → p.isNaN = false)
    (hb : ∀ p, b = some p → p.isNaN = false) (hdiffer : populationPlace a ≠ populationPlace b) :
    populationAbove a b = true ↔ populationPlace b < populationPlace a := by
  rcases a with _ | p <;> rcases b with _ | q
  · exact absurd rfl hdiffer
  · simp [populationAbove, populationPlace]
  · simp [populationAbove, populationPlace]
  · have hplace := FloatOrder.lt_iff_place_lt (hb q rfl) (ha p rfl)
    simp only [populationAbove, populationPlace, decide_eq_true_eq, WithBot.coe_lt_coe, hplace]

theorem outranks_iff {c e : City} (hc : c.Counted) (he : e.Counted) :
    c.outranks e = true ↔ e.standing < c.standing := by
  have hdiffer := populationsDiffer_iff hc he
  simp only [outranks, standing, Prod.Lex.toLex_lt_toLex]
  by_cases hnational : c.isNationalCapital = e.isNationalCapital
  · rw [if_neg (not_not.mpr hnational)]
    by_cases hpopulation : populationPlace c.population = populationPlace e.population
    · rw [if_neg (by simpa [hdiffer] using hpopulation)]
      cases hregional : c.isRegionalCapital <;> cases hother : e.isRegionalCapital <;>
        simp [hnational, hpopulation]
    · rw [if_pos (hdiffer.mpr hpopulation), populationAbove_iff hc he hpopulation]
      simp [hnational, Ne.symm hpopulation]
  · rw [if_pos hnational]
    cases hhere : c.isNationalCapital <;> cases hthere : e.isNationalCapital <;> simp_all

theorem not_outranks_iff {c e : City} (hc : c.Counted) (he : e.Counted) :
    c.outranks e = false ↔ c.standing ≤ e.standing := by
  rw [← Bool.not_eq_true, outranks_iff hc he, not_lt]

/-- Neither of two cities outranks the other. -/
def Tied (c e : City) : Prop := c.outranks e = false ∧ e.outranks c = false

/-- Two cities agree in all that prominence rests on. Populations agree when both are unknown, and
    when both are known and equal. -/
structure Agrees (c e : City) : Prop where
  national : c.isNationalCapital = e.isNationalCapital
  population : (c.population = none ∧ e.population = none) ∨
    ∃ p q, c.population = some p ∧ e.population = some q ∧ (p == q) = true
  regional : c.isRegionalCapital = e.isRegionalCapital

theorem populationPlace_eq_iff {a b : Option Float} (ha : ∀ p, a = some p → p.isNaN = false)
    (hb : ∀ p, b = some p → p.isNaN = false) :
    populationPlace a = populationPlace b ↔
      (a = none ∧ b = none) ∨ ∃ p q, a = some p ∧ b = some q ∧ (p == q) = true := by
  rcases a with _ | p <;> rcases b with _ | q
  · simp
  · simp [populationPlace]
  · simp [populationPlace]
  · have hplace := FloatOrder.beq_iff_place_eq (ha p rfl) (hb q rfl)
    simp [populationPlace, hplace]

theorem standing_eq_iff {c e : City} (hc : c.Counted) (he : e.Counted) :
    c.standing = e.standing ↔ Agrees c e := by
  have hpopulation := populationPlace_eq_iff hc he
  constructor
  · intro h
    obtain ⟨hnational, h⟩ := Prod.ext_iff.mp (toLex_inj.mp h)
    obtain ⟨hplace, hregional⟩ := Prod.ext_iff.mp (toLex_inj.mp h)
    exact ⟨hnational, hpopulation.mp hplace, hregional⟩
  · rintro ⟨hnational, hpopulations, hregional⟩
    rw [standing, standing, hnational, hpopulation.mpr hpopulations, hregional]

theorem tied_iff {c e : City} (hc : c.Counted) (he : e.Counted) :
    Tied c e ↔ c.standing = e.standing := by
  rw [Tied, not_outranks_iff hc he, not_outranks_iff he hc]
  exact ⟨fun h => h.1.antisymm h.2, fun h => ⟨h.le, h.ge⟩⟩

/-- Among cities whose populations are numbers, as far as they are known, outranking is a strict weak
    order: no city outranks itself, of two cities one at most outranks the other, and both
    outranking and being tied carry over from city to city. Cities are tied exactly when they agree
    in all that prominence rests on. -/
theorem outranks_strictWeakOrder {c d e : City} (hc : c.Counted) (hd : d.Counted)
    (he : e.Counted) :
    c.outranks c = false ∧
    (c.outranks d = true → d.outranks c = false) ∧
    (c.outranks d = true → d.outranks e = true → c.outranks e = true) ∧
    (Tied c d → Tied d e → Tied c e) ∧
    (Tied c d ↔ Agrees c d) := by
  refine ⟨?_, ?_, ?_, ?_, ?_⟩
  · exact (not_outranks_iff hc hc).mpr le_rfl
  · intro h
    have hlower := (outranks_iff hc hd).mp h
    exact (not_outranks_iff hd hc).mpr hlower.le
  · intro hcd hde
    have hlower := (outranks_iff hc hd).mp hcd
    have hlowest := (outranks_iff hd he).mp hde
    exact (outranks_iff hc he).mpr (hlowest.trans hlower)
  · intro hcd hde
    have hsame := (tied_iff hc hd).mp hcd
    have hsame' := (tied_iff hd he).mp hde
    exact (tied_iff hc he).mpr (hsame.trans hsame')
  · rw [tied_iff hc hd, standing_eq_iff hc hd]

/-- The capital of a country, of unknown size. -/
def palikir : City :=
  ⟨"Palikir", "Palikir", ⟨6.92, 158.16⟩, "Micronesia", "FM", "FSM", "Pohnpei", "Primary", none, "1"⟩

/-- A city of millions that is no capital. -/
def newYork : City :=
  ⟨"New York", "New York", ⟨40.69, -73.92⟩, "United States", "US", "USA", "New York", "",
    some 18908608.0, "2"⟩

/-- The capital of a region, of unknown size. -/
def albany : City :=
  ⟨"Albany", "Albany", ⟨42.67, -73.8⟩, "United States", "US", "USA", "New York", "admin", none, "3"⟩

theorem outranks_strictWeakOrder_capitals :
    (palikir.Counted ∧ newYork.Counted ∧ albany.Counted) ∧
      palikir.outranks newYork = true ∧ newYork.outranks albany = true ∧
      palikir.outranks albany = true ∧ ¬ Tied palikir newYork := by
  have hcounted : palikir.Counted ∧ newYork.Counted ∧ albany.Counted := by
    simp [palikir, newYork, albany, Counted]
    decide +kernel
  obtain ⟨hpalikir, hnewYork, halbany⟩ := hcounted
  obtain ⟨-, -, htrans, -, htied⟩ := outranks_strictWeakOrder hpalikir hnewYork halbany
  have hcapital : palikir.outranks newYork = true := by decide +kernel
  have hknown : newYork.outranks albany = true := by decide +kernel
  refine ⟨⟨hpalikir, hnewYork, halbany⟩, hcapital, hknown, htrans hcapital hknown, ?_⟩
  intro h
  exact absurd (htied.mp h).national (by decide +kernel)

end NetAtlas.City
