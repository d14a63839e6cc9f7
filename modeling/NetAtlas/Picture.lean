import NetAtlas.Projection.Placement

/-!
Pictures of topologies: a stroke for each edge, and a dot for each node in the colour of its status.
-/

namespace NetAtlas

structure Colour where
  red : UInt8
  green : UInt8
  blue : UInt8
deriving DecidableEq

structure Stroke where
  start : Point Float
  stop : Point Float

structure Dot where
  center : Point Float
  colour : Colour
  label? : Option String

/-- A picture of a given size. Places count from its upper left corner. -/
structure Picture where
  width : Float
  height : Float
  title : String
  strokes : List Stroke
  dots : List Dot
  /-- How fine it is where it is drawn in dots: a picture is twelve inches wide. -/
  dotsPerInch : Float

namespace Picture

/-- The formats of image files, by the ends of their names. -/
def formats : List String :=
  ["eps", "jpeg", "jpg", "pdf", "png", "ps", "raw", "rgba", "svg", "svgz", "tif", "tiff", "webp"]

/-- The picture has a shape: height and width are in a ratio greater than zero. -/
def hasShape (p : Picture) : Bool :=
  let ratio := p.height / p.width
  !(p.width == 0.0) && ratio.isFinite && decide (0.0 < ratio)

def white : Colour := ⟨0xFF, 0xFF, 0xFF⟩

def strokeColour : Colour := ⟨0x90, 0xA4, 0xAE⟩

def rimColour : Colour := ⟨0x00, 0x00, 0x00⟩

def statusColour : Status → Colour
  | .online => ⟨0x2E, 0x7D, 0x32⟩
  | .offline => ⟨0x75, 0x75, 0x75⟩
  | .warning => ⟨0xF9, 0xA8, 0x25⟩
  | .critical => ⟨0xC6, 0x28, 0x28⟩
  | .maintenance => ⟨0x15, 0x65, 0xC0⟩
  | .unknown => ⟨0x9E, 0x9E, 0x9E⟩

/-- The stroke of an edge, unless one of its ends is no node. -/
def strokeOf? (places : List (String × Point Float)) (e : Edge) : Option Stroke := do
  let start ← places.lookup e.source
  let stop ← places.lookup e.target
  return ⟨start, stop⟩

def dotOf? (places : List (String × Point Float)) (labelled : Bool) (n : Node) : Option Dot := do
  let center ← places.lookup n.id
  return ⟨center, statusColour n.status, if labelled && n.name ≠ "" then some n.name else none⟩

/-- The picture of a topology, with the names of its nodes or without. -/
def ofTopology (p : Projector Float) (t : Topology) (dotsPerInch : Float) (labelled : Bool) :
    Read Picture := do
  let places ← p.placements t
  return {
    width := p.viewWidth
    height := p.viewHeight
    title := s!"{t.name} ({t.nodes.length} nodes, {t.edges.length} edges)"
    strokes := t.edges.filterMap (strokeOf? places)
    dots := t.nodes.filterMap (dotOf? places labelled)
    dotsPerInch }

end Picture

end NetAtlas
