import NetAtlas.Coordinates
import NetAtlas.Projection

/-!
Measures on the globe: Mercator northings, rough distances, and names for parts of the world.
-/

namespace NetAtlas

/-- Metres of the equatorial radius. -/
def earthRadius : Float := 6378137.0

def pi : Float := 3.141592653589793

/-- The northing of a latitude in metres, infinite beyond the poles. -/
def mercatorNorthing (latitude : Float) : Float :=
  if latitude.isNaN then latitude
  else if 90.0 < latitude.abs then 1.0 / 0.0
  else earthRadius * (latitude * pi / 180.0).tan.asinh

/-- The length of the hypotenuse, without overflow on the way. An infinite side makes it infinite
whatever the other side is. -/
def hypotenuse (a b : Float) : Float :=
  let a := a.abs
  let b := b.abs
  if a == 1.0 / 0.0 || b == 1.0 / 0.0 then 1.0 / 0.0
  else
    let m := if a < b then b else a
    if m == 0.0 then m + a + b
    else m * ((a / m) * (a / m) + (b / m) * (b / m)).sqrt

def kilometresPerDegree : Float := 111.32

namespace Coordinates

/-- The distance on a plane on which a degree has one length everywhere. -/
def distanceKm (a b : Coordinates) : Float :=
  hypotenuse (b.latitude - a.latitude) (b.longitude - a.longitude) * kilometresPerDegree

/-- The part of the world, roughly, for display. -/
def region (c : Coordinates) : String :=
  if -130.0 ≤ c.longitude ∧ c.longitude ≤ -60.0 ∧ 15.0 ≤ c.latitude then "North America"
  else if -90.0 ≤ c.longitude ∧ c.longitude ≤ -30.0 ∧ c.latitude < 15.0 then "South America"
  else if -20.0 ≤ c.longitude ∧ c.longitude ≤ 50.0 then "Europe/Africa"
  else if 50.0 < c.longitude ∧ c.longitude ≤ 180.0 then "Asia/Oceania"
  else "Unknown Region"

end Coordinates

namespace Projector

/-- A projector with the shipped tables. -/
def shipped (base : BaseMap Float) (viewWidth viewHeight maxLatitude : Float) (precision : Int) :
    Projector Float :=
  { base, viewWidth, viewHeight, maxLatitude, precision
    pins := shippedPins
    nudges := shippedNudges
    northing := mercatorNorthing
    roundTo := Decimal.roundTo }

end Projector

end NetAtlas
