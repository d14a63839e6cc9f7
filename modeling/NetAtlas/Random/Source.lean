import NetAtlas.Fault

/-!
Drawing numbers from a source of random words. What is drawn depends on the source alone, so the
same definitions serve a seeded generator and any given stream.
-/

namespace NetAtlas

/-- A source of 32-bit words. -/
class WordSource (σ : Type) where
  next : σ → UInt32 × σ

/-- Drawing that may also find a setting it cannot use. What was drawn before stays drawn. -/
abbrev Drawing (σ : Type) := ExceptT Fault (StateM σ)

/-- Drawing that finds no fault. -/
def draw {σ α : Type} (m : StateM σ α) : Drawing σ α := ExceptT.lift m

/-- Goes on with what was read, without drawing. -/
def check {σ α : Type} (r : Except Fault α) : Drawing σ α := ExceptT.mk (pure r)

namespace Random

variable {σ : Type} [WordSource σ]

def word : StateM σ Nat := fun source =>
  let (w, source) := WordSource.next source
  (w.toNat, source)

/-- A number of `k` bits. The high bits of a word count; beyond 32 bits the words come lowest
first. -/
def bits (k : Nat) : StateM σ Nat :=
  if 32 < k then do
    let low ← word
    let high ← bits (k - 32)
    return low + high * Nat.pow 2 32
  else do
    let w ← word
    return w / Nat.pow 2 (32 - k)
termination_by k

/-- Draws until a number of the right length is less than `n`; after `tries` numbers that are not,
it is zero. -/
def reject (n : Nat) : (tries : Nat) → StateM σ Nat
  | 0 => return 0
  | tries + 1 => do
    let r ← bits (n.log2 + 1)
    if r < n then return r else reject n tries

/-- More than enough, as each number that is drawn has an even chance at least. -/
def tries : Nat := 4096

/-- A number less than `n`. -/
def below (n : Nat) : StateM σ Nat := reject n tries

/-- A float from zero up to but not including one, in steps of `2 ^ -53`. -/
def unit : StateM σ Float := do
  let a ← word
  let b ← word
  return Float.ofNat (a / 32 * Nat.pow 2 26 + b / 64) / 9007199254740992.0

/-- An integer from `low` to `high`. -/
def integer (low high : Int) : StateM σ Int := do
  let offset ← below (high - low + 1).toNat
  return low + offset

/-- One of the items, all alike in chance. It is asked of lists with items in them: of devices, once
they have been counted, and of bandwidths, which checked settings do not lack. -/
def choice {α : Type} [Inhabited α] (items : List α) : StateM σ α := do
  let i ← below items.length
  return items.getD i default

end Random

end NetAtlas
