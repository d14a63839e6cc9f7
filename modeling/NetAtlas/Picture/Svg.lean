import NetAtlas.Picture

/-!
Pictures as SVG texts.
-/

namespace NetAtlas.Picture

/-- Text between tags or in quotes. -/
def escapeMarkup (s : String) : String :=
  "".intercalate (s.toList.map fun c =>
    match c with
    | '&' => "&amp;"
    | '<' => "&lt;"
    | '>' => "&gt;"
    | '"' => "&quot;"
    | c => String.singleton c)

def hexDigits (b : UInt8) : String :=
  String.ofList (Decimal.padLeft 2 (Nat.toDigits 16 b.toNat))

def colourText (c : Colour) : String := "#" ++ hexDigits c.red ++ hexDigits c.green ++ hexDigits c.blue

def coordinate (x : Float) : String := Decimal.fixedText 2 x

def given (name value : String) : String := " " ++ name ++ "=\"" ++ value ++ "\""

def strokeSvg (s : Stroke) : String :=
  "<line" ++ given "x1" (coordinate s.start.x) ++ given "y1" (coordinate s.start.y)
    ++ given "x2" (coordinate s.stop.x) ++ given "y2" (coordinate s.stop.y)
    ++ given "stroke" (colourText strokeColour) ++ "/>"

def labelSvg (center : Point Float) (text : String) : String :=
  "<text" ++ given "x" (coordinate (center.x + 5.0))
    ++ given "y" (coordinate (center.y - 5.0)) ++ given "font-size" "8" ++ ">"
    ++ escapeMarkup text ++ "</text>"

def dotSvg (d : Dot) : List String :=
  ("<circle" ++ given "cx" (coordinate d.center.x) ++ given "cy" (coordinate d.center.y)
    ++ given "r" "4" ++ given "fill" (colourText d.colour)
    ++ given "stroke" (colourText rimColour) ++ "/>")
    :: (d.label?.map (labelSvg d.center)).toList

/-- The picture as the text of an SVG file; dots stand in front of strokes. -/
def svg (p : Picture) : String :=
  "\n".intercalate
    (["<svg xmlns=\"http://www.w3.org/2000/svg\"" ++ given "width" (coordinate p.width)
        ++ given "height" (coordinate p.height) ++ ">",
      "<title>" ++ escapeMarkup p.title ++ "</title>"]
      ++ p.strokes.map strokeSvg ++ p.dots.flatMap dotSvg ++ ["</svg>", ""])

end NetAtlas.Picture
