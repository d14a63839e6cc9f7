import NetAtlas.Text.Ranges

/-!
White space, trimming, and splitting a text into words.
-/

namespace NetAtlas.Text

/-- The white space of Unicode, with the four ASCII separators `1c` to `1f`. The zero-width
space is not in it. -/
def blankRanges : Ranges :=
  [(0x9, 0xD), (0x1C, 0x20), (0x85, 0x85), (0xA0, 0xA0), (0x1680, 0x1680), (0x2000, 0x200A),
   (0x2028, 0x2029), (0x202F, 0x202F), (0x205F, 0x205F), (0x3000, 0x3000)]

def isBlank (c : Char) : Bool := blankRanges.contains c.toNat

/-- Drops characters of a kind at both ends. -/
def trimBy (p : Char → Bool) (cs : List Char) : List Char :=
  ((cs.dropWhile p).reverse.dropWhile p).reverse

/-- Drops blank characters at both ends. -/
def trim (cs : List Char) : List Char := trimBy isBlank cs

/-- The maximal runs of characters that do not satisfy `sep`, in order; none is empty. -/
def runs (sep : Char → Bool) : List Char → List (List Char)
  | [] => []
  | c :: cs =>
    if sep c then runs sep cs
    else
      match cs with
      | [] => [[c]]
      | d :: _ =>
        match runs sep cs with
        | run :: rest => if sep d then [c] :: run :: rest else (c :: run) :: rest
        | [] => [[c]]

/-- The pieces between occurrences of a separator; always one more than there are separators. -/
def splitOn (sep : Char) : List Char → List (List Char)
  | [] => [[]]
  | c :: cs =>
    if c = sep then [] :: splitOn sep cs
    else
      match splitOn sep cs with
      | piece :: rest => (c :: piece) :: rest
      | [] => [[c]]

theorem splitOn_ne_nil (sep : Char) (cs : List Char) : splitOn sep cs ≠ [] := by
  cases cs with
  | nil => simp [splitOn]
  | cons c cs =>
    rw [splitOn]
    split
    · simp
    · split <;> simp

end NetAtlas.Text

namespace NetAtlas

/-- The text without the blank characters at its ends. -/
def trimmed (s : String) : String := String.ofList (Text.trim s.toList)

end NetAtlas
