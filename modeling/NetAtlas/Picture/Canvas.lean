import NetAtlas.Picture

/-!
Pictures drawn in dots. A canvas holds an index into its palette for each dot.
-/

namespace NetAtlas

structure Canvas where
  width : Nat
  height : Nat
  cells : ByteArray

namespace Canvas

/-- All colours of a picture. The first is that of an empty canvas. -/
def palette : List Colour :=
  [Picture.white, Picture.strokeColour, Picture.rimColour]
    ++ [Status.online, .offline, .warning, .critical, .maintenance, .unknown].map
      Picture.statusColour

def indexOf (c : Colour) : UInt8 := UInt8.ofNat (palette.idxOf c)

def blank (width height : Nat) : Canvas := ⟨width, height, ⟨Array.replicate (width * height) 0⟩⟩

/-- Colours a dot, if it is on the canvas. -/
def mark (c : Canvas) (colour : Colour) (x y : Int) : Canvas :=
  let i := (y * c.width + x).toNat
  if h : (0 ≤ x ∧ x < c.width ∧ 0 ≤ y) ∧ i < c.cells.size then
    { c with cells := c.cells.set i (indexOf colour) h.2 }
  else c

/-- The nearest dot to a place; what is no number counts as zero. -/
def dotAt (v scale : Float) : Int := (v * scale + 0.5).floor.toInt64.toInt

/-- A straight stroke, in as many steps as it needs not to have gaps. -/
def drawStroke (scale : Float) (c : Canvas) (s : Stroke) : Canvas :=
  let x := dotAt s.start.x scale
  let y := dotAt s.start.y scale
  let dx := dotAt s.stop.x scale - x
  let dy := dotAt s.stop.y scale - y
  let steps := min (max dx.natAbs dy.natAbs) (c.width + c.height)
  (List.range (steps + 1)).foldl (fun (c : Canvas) (n : Nat) =>
    c.mark Picture.strokeColour (x + (dx * n).tdiv (max steps 1))
      (y + (dy * n).tdiv (max steps 1))) c

/-- The radius of a dot on the canvas. -/
def radius : Int := 6

/-- A filled circle with a rim. -/
def drawDot (scale : Float) (c : Canvas) (d : Dot) : Canvas :=
  let x := dotAt d.center.x scale
  let y := dotAt d.center.y scale
  let offsets := (List.range (2 * radius.toNat + 1)).map fun (n : Nat) => (n : Int) - radius
  let around := offsets.flatMap fun dy => offsets.map fun dx => (dx, dy)
  around.foldl (fun (c : Canvas) (dx, dy) =>
    let far := dx * dx + dy * dy
    if far ≤ (radius - 1) * (radius - 1) then c.mark d.colour (x + dx) (y + dy)
    else if far ≤ radius * radius then c.mark Picture.rimColour (x + dx) (y + dy)
    else c) c

/-- The picture in dots, twelve inches wide. -/
def ofPicture (p : Picture) : Canvas :=
  let width := 12.0 * p.dotsPerInch
  let scale := width / p.width
  let empty := blank width.toUInt32.toNat (p.height * scale).toUInt32.toNat
  p.dots.foldl (drawDot scale) (p.strokes.foldl (drawStroke scale) empty)

end Canvas

end NetAtlas
