/-!
Places in a YAML text.
-/

namespace NetAtlas.Yaml

/-- Why a text is no document that can be read. -/
inductive Problem where
  | unprintable
  | strayCharacter
  | noColon
  | misplaced
  | badName
  | badTag
  | badDirective
  | badEscape
  | badBlockHeader
  | openQuote
  | unexpected
  | undefinedAlias (name : String)
  | repeatedAnchor (name : String)
  | unknownTag (tag : String)
  | badTruth (text : String)
  | badInteger (text : String)
  | badFloat (text : String)
  | badKey
  | badMerge
  | manyDocuments
deriving DecidableEq, Repr

def Problem.message : Problem → String
  | .unprintable => "special characters are not allowed"
  | .strayCharacter => "found character that cannot start any token"
  | .noColon => "could not find expected ':'"
  | .misplaced => "an entry is not allowed here"
  | .badName => "expected alphabetic or numeric character in a name"
  | .badTag => "found a tag that is no tag"
  | .badDirective => "found a directive that is no directive"
  | .badEscape => "found unknown escape character"
  | .badBlockHeader => "found a block scalar with a bad header"
  | .openQuote => "found unexpected end of stream"
  | .unexpected => "did not find what was expected"
  | .undefinedAlias name => "found undefined alias " ++ name
  | .repeatedAnchor name => "found duplicate anchor " ++ name
  | .unknownTag tag => "could not determine a constructor for the tag " ++ tag
  | .badTruth text => "found no truth value: " ++ text
  | .badInteger text => "found no integer: " ++ text
  | .badFloat text => "found no number: " ++ text
  | .badKey => "found unhashable key"
  | .badMerge => "expected a mapping or list of mappings for merging"
  | .manyDocuments => "expected a single document in the stream"

def isBreak (c : Char) : Bool := c = '\n' || c = '\u0085' || c = '\u2028' || c = '\u2029'

/-- The end of the text, or of the line. -/
def endsLine : Option Char → Bool
  | none => true
  | some c => isBreak c

/-- The end of the text or line, or a space. -/
def endsWord : Option Char → Bool
  | some ' ' => true
  | c => endsLine c

/-- The end of the text or line, a space or a tabulator. -/
def endsToken : Option Char → Bool
  | some '\t' => true
  | c => endsWord c

/-- What is left of a text, and where that begins. -/
structure Cursor where
  rest : List Char
  index : Nat
  line : Nat
  column : Nat

namespace Cursor

def ofText (cs : List Char) : Cursor := ⟨cs, 0, 0, 0⟩

def peek (c : Cursor) : Option Char := c.rest.head?

def peekAt (c : Cursor) (n : Nat) : Option Char := c.rest[n]?

/-- One character further. A byte order mark takes no column. -/
def next (c : Cursor) : Cursor :=
  match c.rest with
  | [] => c
  | ch :: cs =>
    if isBreak ch then ⟨cs, c.index + 1, c.line + 1, 0⟩
    else if ch = '\uFEFF' then ⟨cs, c.index + 1, c.line, c.column⟩
    else ⟨cs, c.index + 1, c.line, c.column + 1⟩

def skip (c : Cursor) : Nat → Cursor
  | 0 => c
  | n + 1 => c.next.skip n

/-- The longest run of characters of a kind, and the place behind it. -/
def span (p : Char → Bool) (c : Cursor) : List Char × Cursor :=
  let run := c.rest.takeWhile p
  (run, c.skip run.length)

def skipWhile (p : Char → Bool) (c : Cursor) : Cursor := (c.span p).2

def skipSpaces (c : Cursor) : Cursor := c.skipWhile (· = ' ')

/-- The line break at this place as it counts in a text, and the place behind it. -/
def lineBreak? (c : Cursor) : Option (Char × Cursor) :=
  match c.peek with
  | some ch =>
    if ch = '\u2028' ∨ ch = '\u2029' then some (ch, c.next)
    else if isBreak ch then some ('\n', c.next)
    else none
  | none => none

/-- Three dashes or dots by themselves, which divide documents. -/
def atMarker (c : Cursor) : Bool :=
  (c.rest.take 3 = ['-', '-', '-'] || c.rest.take 3 = ['.', '.', '.']) && endsToken (c.peekAt 3)

end Cursor

end NetAtlas.Yaml
