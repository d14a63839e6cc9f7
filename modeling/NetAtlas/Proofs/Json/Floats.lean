import NetAtlas.Proofs.FloatParts
import NetAtlas.Proofs.Json.Plain

/-!
Floats in JSON. The infinities, and what is not a number, have names that stand for one float each;
whether a finite float reads back is a matter of its digits.
-/

namespace NetAtlas

namespace Json

/-- If the float is finite, its digits are those of no other float. -/
def ReadsBack (x : Float) : Prop :=
  ∀ d, FloatKind.of x = .finite d → plain (floatText x).toList = .ok (.float x, [])

/-- The names of the other floats need no such condition. -/
theorem ReadsBack.plain_floatText {x : Float} (h : ReadsBack x) :
    plain (floatText x).toList = .ok (.float x, []) := by
  cases hkind : FloatKind.of x with
  | finite d => exact h d hkind
  | infinite negative =>
    rw [floatText, hkind, FloatKind.eq_of_infinite hkind]
    cases negative <;> rfl
  | notANumber =>
    rw [floatText, hkind, FloatKind.eq_of_notANumber hkind]
    rfl

end Json

end NetAtlas
