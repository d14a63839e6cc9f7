/-!
Line ends of text files.
-/

namespace NetAtlas.Text

/-- The text with a line feed at the end of each line, where files may also have carriage
returns, alone or in front of a line feed. -/
def unixLines : List Char → List Char
  | [] => []
  | '\r' :: '\n' :: cs => '\n' :: unixLines cs
  | '\r' :: cs => '\n' :: unixLines cs
  | c :: cs => c :: unixLines cs

end NetAtlas.Text
