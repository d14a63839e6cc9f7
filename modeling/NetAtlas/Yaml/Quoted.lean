import NetAtlas.Json.Reader
import NetAtlas.Yaml.Cursor

/-!
Quoted YAML texts. Line breaks inside are folded: a single one becomes a space, and of several all
but the first are kept.
-/

namespace NetAtlas.Yaml

/-- The lines breaks, blanks around them left out, up to the next character that counts. -/
def foldedBreaks : (fuel : Nat) → Cursor → Except Problem (List Char × Cursor)
  | 0, _ => .error .openQuote
  | fuel + 1, c =>
    if c.atMarker then .error .unexpected
    else
      let c := c.skipWhile fun ch => ch = ' ' || ch = '\t'
      match c.lineBreak? with
      | none => .ok ([], c)
      | some (ch, c) => do
        let (more, c) ← foldedBreaks fuel c
        return (ch :: more, c)

/-- Blanks and line breaks in a quoted text. -/
def quotedBlanks (fuel : Nat) (c : Cursor) : Except Problem (List Char × Cursor) :=
  let (blanks, c) := c.span fun ch => ch = ' ' || ch = '\t'
  match c.peek with
  | none => .error .openQuote
  | some _ =>
    match c.lineBreak? with
    | none => .ok (blanks, c)
    | some (ch, c) => do
      let (breaks, c) ← foldedBreaks fuel c
      if ch ≠ '\n' then return (ch :: breaks, c)
      else if breaks.isEmpty then return ([' '], c)
      else return (breaks, c)

def escapes : List (Char × Char) :=
  [('0', '\x00'), ('a', '\x07'), ('b', '\x08'), ('t', '\t'), ('\t', '\t'), ('n', '\n'),
   ('v', '\x0b'), ('f', '\x0c'), ('r', '\r'), ('e', '\x1b'), (' ', ' '), ('"', '"'),
   ('\\', '\\'), ('/', '/'), ('N', '\u0085'), ('_', '\u00a0'), ('L', '\u2028'), ('P', '\u2029')]

/-- How many hexadecimal digits follow. -/
def codeLength? : Char → Option Nat
  | 'x' => some 2
  | 'u' => some 4
  | 'U' => some 8
  | _ => none

/-- The character of a code. A code that is none gives the replacement character. -/
def characterOf (code : Nat) : Char :=
  if code.isValidChar then Char.ofNat code else '\uFFFD'

/-- What an escape stands for; the cursor is behind the backslash. -/
def escape (fuel : Nat) (c : Cursor) : Except Problem (List Char × Cursor) :=
  match c.peek with
  | none => .error .badEscape
  | some ch =>
    match escapes.lookup ch, codeLength? ch with
    | some d, _ => .ok ([d], c.next)
    | none, some n =>
      match (c.next.rest.take n).mapM Json.hexValue? with
      | some ds =>
        if ds.length = n then
          .ok ([characterOf (ds.foldl (fun code d => code * 16 + d) 0)], c.next.skip n)
        else .error .badEscape
      | none => .error .badEscape
    | none, none =>
      match c.lineBreak? with
      | some (_, c) => foldedBreaks fuel c
      | none => .error .badEscape

/-- The rest of a text in the given quotes, after what is in `read`, last character first. -/
def quotedFrom (quote : Char) :
    (fuel : Nat) → Cursor → (read : List Char) → Except Problem (List Char × Cursor)
  | 0, _, _ => .error .openQuote
  | fuel + 1, c, read =>
    match c.peek with
    | none => .error .openQuote
    | some ch =>
      if ch = quote then
        if quote = '\'' ∧ c.peekAt 1 = some '\'' then
          quotedFrom quote fuel (c.skip 2) ('\'' :: read)
        else .ok (read.reverse, c.next)
      else if quote = '"' ∧ ch = '\\' then do
        let (piece, c) ← escape (c.rest.length + 1) c.next
        quotedFrom quote fuel c (piece.reverse ++ read)
      else if endsToken (some ch) then do
        let (piece, c) ← quotedBlanks (c.rest.length + 1) c
        quotedFrom quote fuel c (piece.reverse ++ read)
      else quotedFrom quote fuel c.next (ch :: read)

/-- A quoted text; the cursor is at its first quote. -/
def quotedText (c : Cursor) : Except Problem (List Char × Cursor) :=
  match c.peek with
  | some quote => quotedFrom quote (c.rest.length + 1) c.next []
  | none => .error .openQuote

end NetAtlas.Yaml
