import NetAtlas.Yaml.Cursor

/-!
Plain YAML texts, which end where something else begins, and block texts, which end with their
indentation.
-/

namespace NetAtlas.Yaml

/-! ### Plain texts -/

/-- Does a plain text end at this place? Between brackets more characters end it. -/
def endsPlain (flow : Bool) (ch : Char) (following : Option Char) : Bool :=
  endsToken (some ch)
    || (ch = ':' && (endsToken following || (flow && following.any fun d => ",[]\x7b\x7d".contains d)))
    || (flow && ",?[]\x7b\x7d".contains ch)

def plainRun (flow : Bool) : List Char → List Char
  | [] => []
  | ch :: cs => if endsPlain flow ch cs.head? then [] else ch :: plainRun flow cs

/-- Line breaks, and spaces between them; nothing if a marker comes first. -/
def breaksOrMarker : (fuel : Nat) → Cursor → Option (List Char × Cursor)
  | 0, _ => none
  | fuel + 1, c =>
    if c.atMarker && c.column = 0 then none
    else
      let c := c.skipSpaces
      match c.lineBreak? with
      | none => some ([], c)
      | some (ch, c) => (breaksOrMarker fuel c).map fun (more, c) => (ch :: more, c)

/-- What stands between two pieces of a plain text, the place behind it, and whether a line ended
there. Nothing stands there when a marker comes first. -/
def plainBlanks (c : Cursor) : List Char × Cursor × Bool :=
  let (spaces, c) := c.span (· = ' ')
  match c.lineBreak? with
  | none => (spaces, c, false)
  | some (ch, c) =>
    match breaksOrMarker (c.rest.length + 1) c with
    | none => ([], c, true)
    | some (breaks, c) =>
      if ch ≠ '\n' then (ch :: breaks, c, true)
      else if breaks.isEmpty then ([' '], c, true)
      else (breaks, c, true)

/-- A plain text, the place behind it, and whether the last thing read was the end of a line.
`indent` is the least column on which it goes on in a later line. -/
def plainFrom (flow : Bool) (indent : Int) :
    (fuel : Nat) → Cursor → (blanks read : List Char) → (lineEnded : Bool) →
      List Char × Cursor × Bool
  | 0, c, _, read, lineEnded => (read, c, lineEnded)
  | fuel + 1, c, blanks, read, lineEnded =>
    let run := if c.peek = some '#' then [] else plainRun flow c.rest
    if run.isEmpty then (read, c, lineEnded)
    else
      let read := read ++ blanks ++ run
      let (blanks, c, lineEnded) := plainBlanks (c.skip run.length)
      if blanks.isEmpty || c.peek = some '#' || (!flow && decide ((c.column : Int) < indent)) then
        (read, c, lineEnded)
      else plainFrom flow indent fuel c blanks read lineEnded

def plainText (flow : Bool) (indent : Int) (c : Cursor) : List Char × Cursor × Bool :=
  plainFrom flow indent (c.rest.length + 1) c [] [] false

/-! ### Block texts -/

/-- What becomes of the line breaks at the end of a block text. -/
inductive Chomping where
  | strip
  | clip
  | keep
deriving DecidableEq, Repr

def chomping? : Option Char → Option Chomping
  | some '+' => some .keep
  | some '-' => some .strip
  | _ => none

def indentDigit? : Option Char → Option Nat
  | some ch => if '0' ≤ ch ∧ ch ≤ '9' then some (ch.toNat - 48) else none
  | none => none

/-- Chomping and indentation in either order; an indentation of zero is refused. -/
def blockHeader (c : Cursor) : Except Problem (Chomping × Option Nat × Cursor) := do
  let (chomping, c) :=
    match chomping? c.peek with
    | some k => (some k, c.next)
    | none => (none, c)
  let (width, c) :=
    match indentDigit? c.peek with
    | some n => (some n, c.next)
    | none => (none, c)
  let (chomping, c) :=
    match chomping, width, chomping? c.peek with
    | none, some _, some k => (some k, c.next)
    | _, _, _ => (chomping, c)
  if width = some 0 || !endsWord c.peek then .error .badBlockHeader
  else return (chomping.getD .clip, width, c)

/-- Passes over spaces, a comment, and the end of the line. -/
def restOfLine (problem : Problem) (c : Cursor) : Except Problem Cursor :=
  let c := c.skipSpaces
  let c := if c.peek = some '#' then c.skipWhile fun ch => !isBreak ch else c
  match c.lineBreak?, c.peek with
  | some (_, c), _ => .ok c
  | none, none => .ok c
  | none, some _ => .error problem

/-- Passes over spaces up to a column. -/
def skipToColumn (column : Nat) : (fuel : Nat) → Cursor → Cursor
  | 0, c => c
  | fuel + 1, c =>
    if c.column < column ∧ c.peek = some ' ' then skipToColumn column fuel c.next else c

/-- Blank lines in front of a line that is indented to a column. -/
def blankLines (column : Nat) : (fuel : Nat) → Cursor → List Char × Cursor
  | 0, c => ([], c)
  | fuel + 1, c =>
    let c := skipToColumn column c.rest.length c
    match c.lineBreak? with
    | none => ([], c)
    | some (ch, c) =>
      let (more, c) := blankLines column fuel c
      (ch :: more, c)

/-- Blank lines at the start of a block text, and the widest indentation among them and of the
first line that is not blank. -/
def leadingLines : (fuel : Nat) → Cursor → (widest : Nat) → List Char × Nat × Cursor
  | 0, c, widest => ([], widest, c)
  | fuel + 1, c, widest =>
    let c := c.skipSpaces
    let widest := max widest c.column
    match c.lineBreak? with
    | none => ([], widest, c)
    | some (ch, c) =>
      let (more, widest, c) := leadingLines fuel c widest
      (ch :: more, widest, c)

def isWhite (ch : Option Char) : Bool := ch = some ' ' || ch = some '\t'

/-- The lines of a block text at a column. `breaks` are those in front of the line at the cursor. -/
def blockLines (folded : Bool) (chomping : Chomping) (column : Nat) :
    (fuel : Nat) → Cursor → (breaks read : List Char) → List Char × Cursor
  | 0, c, _, read => (read, c)
  | fuel + 1, c, breaks, read =>
    if c.column = column ∧ c.peek ≠ none then
      let startsWhite := isWhite c.peek
      let (line, c) := c.span fun ch => !isBreak ch
      let read := read ++ breaks ++ line
      let (ending, c) :=
        match c.lineBreak? with
        | some (ch, c) => ([ch], c)
        | none => ([], c)
      let (breaks, c) := blankLines column (c.rest.length + 1) c
      if c.column = column ∧ c.peek ≠ none then
        let joint :=
          if folded && ending = ['\n'] && !startsWhite && !isWhite c.peek then
            if breaks.isEmpty then [' '] else []
          else ending
        blockLines folded chomping column fuel c breaks (read ++ joint)
      else
        match chomping with
        | .strip => (read, c)
        | .clip => (read ++ ending, c)
        | .keep => (read ++ ending ++ breaks, c)
    else
      match chomping with
      | .keep => (read ++ breaks, c)
      | _ => (read, c)

/-- A block text inside something indented by `indent`; the cursor is at its indicator. -/
def blockText (indent : Int) (c : Cursor) : Except Problem (List Char × Cursor) := do
  let folded := c.peek = some '>'
  let (chomping, width, c) ← blockHeader c.next
  let c ← restOfLine .badBlockHeader c
  let least := max (indent + 1) 1
  match width with
  | some n =>
    let column := (least + n - 1).toNat
    let (breaks, c) := blankLines column (c.rest.length + 1) c
    return blockLines folded chomping column (c.rest.length + 1) c breaks []
  | none =>
    let (breaks, widest, c) := leadingLines (c.rest.length + 1) c 0
    let column := max least.toNat widest
    return blockLines folded chomping column (c.rest.length + 1) c breaks []

end NetAtlas.Yaml
