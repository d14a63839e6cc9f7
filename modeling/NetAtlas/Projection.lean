import NetAtlas.Fault
import NetAtlas.Projection.BaseMap
import NetAtlas.Value.Reading

/-!
Projecting latitude and longitude onto a map, and from the map into a viewport. A point that is
pinned by hand takes the place of its pin. Any other is put on the curve, straight in longitude and
Mercator in latitude, and shifted by the nudge whose box covers it.
-/

namespace NetAtlas

structure Point (K : Type) where
  x : K
  y : K
deriving DecidableEq, Inhabited

structure Projector (K : Type) where
  base : BaseMap K
  viewWidth : K
  viewHeight : K
  /-- Latitudes beyond it, on either side, are cut to it. -/
  maxLatitude : K
  pins : List (Pin K)
  nudges : List (Nudge K)
  /-- Decimal places to which a latitude and longitude must agree with those of a pin. -/
  precision : Int
  /-- The northing of a latitude on a Mercator map. -/
  northing : K → K
  /-- Rounding to decimal places. -/
  roundTo : Int → K → K

namespace Projector

variable {K : Type} [Scalar K]

def divide (a b : K) : Read K := if Scalar.same b 0.0 then .error .divisionByZero else .ok (a / b)

/-- Units of the loaded map for each unit of the default map. -/
def scaleX (p : Projector K) : K := p.base.boxWidth / defaultWidth

def scaleY (p : Projector K) : K := p.base.boxHeight / defaultHeight

/-- The pin at a place. Of two pins at one place the later one counts. -/
def pinAt (p : Projector K) (latitude longitude : K) : Option (Pin K) :=
  let latitude := p.roundTo p.precision latitude
  let longitude := p.roundTo p.precision longitude
  p.pins.reverse.find? fun pin =>
    Scalar.same pin.latitude latitude && Scalar.same pin.longitude longitude

/-- The nudge that applies to a place. -/
def nudgeAt (p : Projector K) (latitude longitude : K) : Option (Nudge K) :=
  p.nudges.find? fun n => n.covers latitude longitude

/-- The place on the bare curve, in units of the loaded map. -/
def onCurve (p : Projector K) (latitude longitude : K) : Read (Point K) := do
  let longitude := Scalar.clamp (-180.0) 180.0 longitude
  let latitude := Scalar.clamp (-p.maxLatitude) p.maxLatitude latitude
  let x := (longitude + 180.0) / 360.0 * p.base.boxWidth
  let share ← divide (p.northing latitude) (2.0 * p.northing p.maxLatitude)
  return ⟨x, (0.5 - share) * p.base.boxHeight⟩

/-- What is no number counts as zero. -/
def finiteOrZero (v : K) : K := if Scalar.isFinite v then v else 0.0

/-- The place of a point that is not pinned, before it is cut to the map. -/
def unpinned (p : Projector K) (latitude longitude : K) : Read (Point K) := do
  let point ← p.onCurve latitude longitude
  match p.nudgeAt latitude longitude with
  | some n => return ⟨point.x + n.dx * p.scaleX, point.y + n.dy * p.scaleY⟩
  | none => return point

/-- The place on the loaded map. -/
def onMap (p : Projector K) (latitude longitude : K) : Read (Point K) := do
  let latitude := finiteOrZero latitude
  let longitude := finiteOrZero longitude
  let point ←
    match p.pinAt latitude longitude with
    | some pin => pure ⟨pin.x * p.scaleX, pin.y * p.scaleY⟩
    | none => p.unpinned latitude longitude
  return ⟨Scalar.clamp 0.0 p.base.boxWidth point.x, Scalar.clamp 0.0 p.base.boxHeight point.y⟩

/-- The place in the viewport before it is rounded. -/
def inView (p : Projector K) (latitude longitude : K) : Read (Point K) := do
  let point ← p.onMap latitude longitude
  let x ← divide point.x p.base.boxWidth
  let y ← divide point.y p.base.boxHeight
  return ⟨x * p.viewWidth, y * p.viewHeight⟩

/-- The place in the viewport, to hundredths and never outside. -/
def onScreen (p : Projector K) (latitude longitude : K) : Read (Point K) := do
  let point ← p.inView latitude longitude
  return ⟨Scalar.clamp 0.0 p.viewWidth (p.roundTo 2 point.x),
    Scalar.clamp 0.0 p.viewHeight (p.roundTo 2 point.y)⟩

end Projector

end NetAtlas
