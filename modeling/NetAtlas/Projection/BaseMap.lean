import NetAtlas.Projection.Scalar

/-!
The reference map, and what the shipped tables say about it: places put on it by hand, and boxes in
which points are nudged off the water. Both are in units of the default map.
-/

namespace NetAtlas

/-- Size and view box of a map. Coordinates on it are those of the view box. -/
structure BaseMap (K : Type) where
  width : K
  height : K
  left : K
  top : K
  boxWidth : K
  boxHeight : K

/-- A place whose position on the default map is known. -/
structure Pin (K : Type) where
  latitude : K
  longitude : K
  x : K
  y : K

/-- A shift of all points in a box of latitudes and longitudes. -/
structure Nudge (K : Type) where
  name : String
  south : K
  west : K
  north : K
  east : K
  dx : K
  dy : K

section

variable {K : Type} [Scalar K]

def defaultWidth : K := 2000.0

def defaultHeight : K := 857.0

def BaseMap.default : BaseMap K :=
  ⟨defaultWidth, defaultHeight, 0.0, 0.0, defaultWidth, defaultHeight⟩

/-- Places where the plain curve would put a point into open water on the shipped map. -/
def shippedPins : List (Pin K) :=
  [⟨40.7128, -74.0060, 608.2, 239.6⟩,
   ⟨34.0522, -118.2426, 372.6, 280.9⟩,
   ⟨41.8781, -87.6298, 535.6, 232.4⟩,
   ⟨43.6532, -79.3832, 607.0, 223.8⟩,
   ⟨51.5074, -0.1278, 987.4, 172.9⟩,
   ⟨48.8566, 2.3522, 995.6, 187.7⟩,
   ⟨50.1109, 8.6821, 1029.0, 181.7⟩,
   ⟨52.3676, 4.9041, 1009.6, 167.6⟩,
   ⟨35.6762, 139.6503, 1711.4, 267.2⟩,
   ⟨1.3521, 103.8198, 1625.8, 496.7⟩,
   ⟨19.0760, 72.8777, 1389.4, 374.9⟩,
   ⟨37.5665, 126.9780, 1661.2, 259.2⟩,
   ⟨-33.8688, 151.2093, 1790.4, 698.6⟩,
   ⟨-37.8136, 144.9631, 1760.0, 720.4⟩,
   ⟨-23.5505, -46.6333, 723.0, 653.2⟩,
   ⟨4.7110, -74.0721, 574.0, 480.8⟩,
   ⟨30.0444, 31.2357, 1159.8, 309.4⟩,
   ⟨-33.9249, 18.4241, 1087.2, 719.5⟩]

/-- The first box that covers a point counts, so narrower boxes stand before wider ones. -/
def shippedNudges : List (Nudge K) :=
  [⟨"singapore_strait", -1.0, 100.0, 7.0, 105.0, 0.0, -2.0⟩,
   ⟨"japan", 30.0, 129.0, 46.0, 146.0, -4.0, 0.0⟩,
   ⟨"british_isles", 49.5, -11.0, 59.0, 2.0, 3.0, 0.0⟩,
   ⟨"florida", 24.0, -88.0, 31.0, -79.5, -2.0, -2.0⟩,
   ⟨"us_east_coast", 31.0, -82.0, 45.0, -69.0, -3.0, 0.0⟩,
   ⟨"us_west_coast", 32.0, -125.0, 49.0, -116.0, 3.0, 0.0⟩,
   ⟨"chile_coast", -56.0, -76.0, -17.0, -69.0, 3.0, 0.0⟩,
   ⟨"east_australia", -39.0, 148.0, -24.0, 154.0, -3.0, 0.0⟩,
   ⟨"new_zealand", -48.0, 165.0, -34.0, 179.0, -3.0, 0.0⟩]

namespace Nudge

/-- The value lies between two limits, or at one of them, whichever way round they are. -/
def between (a b v : K) : Bool :=
  (Scalar.atMost a v && Scalar.atMost v b) || (Scalar.atMost b v && Scalar.atMost v a)

/-- The box contains the point, its edges included. -/
def covers (n : Nudge K) (latitude longitude : K) : Bool :=
  Scalar.isFinite latitude && Scalar.isFinite longitude && between n.south n.north latitude
    && between n.west n.east longitude

end Nudge

end

end NetAtlas
