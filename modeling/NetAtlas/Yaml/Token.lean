import NetAtlas.Yaml.Quoted
import NetAtlas.Yaml.Unquoted

/-!
The tokens of a YAML text. Indentation turns into tokens that open and close blocks, and what shows
to be a key by the colon behind it gets a token in front.
-/

namespace NetAtlas.Yaml

inductive Token where
  | version (major : Nat)
  | handle (name meaning : String)
  | otherDirective
  | documentStart
  | documentEnd
  | blockSequence
  | blockMapping
  | blockEnd
  | openList
  | closeList
  | openMapping
  | closeMapping
  | blockEntry
  | flowEntry
  | key
  | value
  | alias (name : String)
  | anchor (name : String)
  | tag (handle : Option String) (suffix : String)
  | scalar (text : String) (plain : Bool)
deriving DecidableEq, Repr

/-- What may turn out to be a key: the token that it begins with, and where. -/
structure Candidate where
  token : Nat
  required : Bool
  index : Nat
  line : Nat
  column : Nat

structure Lexer where
  cursor : Cursor
  /-- How many brackets are open. -/
  depth : Nat
  indent : Int
  outer : List Int
  keyAllowed : Bool
  /-- At most one candidate for each depth. -/
  candidates : List (Nat × Candidate)
  /-- The tokens so far, last one first. -/
  tokens : List Token

abbrev Lexing := StateT Lexer (Except Problem)

namespace Lexer

def start (cs : List Char) : Lexer := ⟨.ofText cs, 0, -1, [], true, [], []⟩

def push (t : Token) (l : Lexer) : Lexer := { l with tokens := t :: l.tokens }

/-- Puts a token before the one that has a number, counted from the first. -/
def insertAt (number : Nat) (t : Token) (l : Lexer) : Lexer :=
  { l with tokens := l.tokens.insertIdx (l.tokens.length - number) t }

def inFlow (l : Lexer) : Bool := l.depth != 0

end Lexer

def lift {α : Type} (r : Except Problem α) : Lexing α := StateT.lift r

/-- Drops the candidate at the present depth, which must not be one that is required. -/
def dropCandidate : Lexing Unit := do
  let l ← get
  match l.candidates.lookup l.depth with
  | some k =>
    if k.required then throw .noColon
    set { l with candidates := l.candidates.filter fun (d, _) => d != l.depth }
  | none => return ()

/-- Notes that a key may begin here. -/
def noteCandidate : Lexing Unit := do
  let l ← get
  let required := !l.inFlow && l.indent == l.cursor.column
  if l.keyAllowed then
    dropCandidate
    modify fun l =>
      let k := ⟨l.tokens.length, required, l.cursor.index, l.cursor.line, l.cursor.column⟩
      { l with candidates := (l.depth, k) :: l.candidates }

/-- The longest text that may be a key without a mark. -/
def longestKey : Nat := 1024

/-- Forgets candidates that are on an earlier line or too long. -/
def forgetStale : Lexing Unit := do
  let l ← get
  let stale (k : Candidate) : Bool :=
    k.line != l.cursor.line || decide (longestKey < l.cursor.index - k.index)
  if l.candidates.any fun (_, k) => stale k && k.required then throw .noColon
  set { l with candidates := l.candidates.filter fun (_, k) => !stale k }

/-- Closes the blocks that are indented further than a column. -/
def closeBlocks (column : Int) (l : Lexer) : Lexer :=
  if l.inFlow then l else close l.indent l.outer l
where
  close (indent : Int) (outer : List Int) (l : Lexer) : Lexer :=
    if column < indent then
      match outer with
      | next :: outer => close next outer (l.push .blockEnd)
      | [] => { l with indent := -1, outer := [] }
    else { l with indent, outer }

/-- Opens a block at a column, unless the present one is indented as far. -/
def openBlock (column : Nat) (t : Token) (place : Option Nat) : Lexing Unit :=
  modify fun l =>
    if l.indent < (column : Int) then
      let l := { l with indent := (column : Int), outer := l.indent :: l.outer }
      match place with
      | some number => l.insertAt number t
      | none => l.push t
    else l

def allowKey (allowed : Bool) : Lexing Unit := modify fun l => { l with keyAllowed := allowed }

/-- Passes over characters and adds a token. -/
def advance (count : Nat) (t : Token) : Lexing Unit :=
  modify fun l => { l with cursor := l.cursor.skip count }.push t

/-- Passes over spaces, comments and line breaks. Outside brackets a key may follow a line break. -/
def skipToToken : (fuel : Nat) → Lexing Unit
  | 0 => return ()
  | fuel + 1 => do
    let l ← get
    let c := l.cursor.skipSpaces
    let c := if c.peek = some '#' then c.skipWhile fun ch => !isBreak ch else c
    match c.lineBreak? with
    | some (_, c) =>
      set { l with cursor := c, keyAllowed := l.keyAllowed || !l.inFlow }
      skipToToken fuel
    | none => set { l with cursor := c }

/-! ### Names, tags and directives -/

def isNameChar (c : Char) : Bool := c.isAlphanum || c = '-' || c = '_'

def isUriChar (c : Char) : Bool :=
  c.isAlphanum || "-;/?:@&=+$,_.!~*'()[]%".contains c

/-- The name of an anchor or alias behind its indicator. -/
def scanName (make : String → Token) : Lexing Unit := do
  let l ← get
  let (name, c) := l.cursor.next.span isNameChar
  let ended := endsToken c.peek || c.peek.any fun d => "?:,]\x7d%@`".contains d
  if name.isEmpty || !ended then throw .badName
  set ({ l with cursor := c }.push (make (String.ofList name)))

/-- A tag: between angle brackets, or a handle with a suffix. -/
def scanTag : Lexing Unit := do
  let l ← get
  let c := l.cursor
  let (handle, suffix, c) ←
    if c.peekAt 1 = some '<' then do
      let (suffix, c) := (c.skip 2).span isUriChar
      if suffix.isEmpty || c.peek ≠ some '>' then throw .badTag
      pure (none, suffix, c.next)
    else if endsToken (c.peekAt 1) then pure (none, ['!'], c.next)
    else do
      let name := c.next.rest.takeWhile isNameChar
      let (handle, c) :=
        if c.peekAt (name.length + 1) = some '!' then
          ('!' :: (name ++ ['!']), c.skip (name.length + 2))
        else (['!'], c.next)
      let (suffix, c) := c.span isUriChar
      if suffix.isEmpty then throw .badTag
      pure (some (String.ofList handle), suffix, c)
  if !endsWord c.peek then throw .badTag
  set ({ l with cursor := c }.push (.tag handle (String.ofList suffix)))

/-- A version of two numbers, of which the first counts. -/
def scanVersion (c : Cursor) : Except Problem (Token × Cursor) :=
  let (major, c) := c.skipSpaces.span Char.isDigit
  match c.peek with
  | some '.' =>
    let (minor, c) := c.next.span Char.isDigit
    if major.isEmpty || minor.isEmpty || !endsWord c.peek then .error .badDirective
    else .ok (.version (Decimal.ofDigits (major.map fun d => d.toNat - 48)), c)
  | _ => .error .badDirective

/-- A handle for tags, and what it stands for. -/
def scanHandle (c : Cursor) : Except Problem (Token × Cursor) :=
  let (handle, c) := c.skipSpaces.span fun ch => ch = '!' || isNameChar ch
  if handle.head? ≠ some '!' ∨ handle.getLast? ≠ some '!' ∨ c.peek ≠ some ' ' then
    .error .badDirective
  else
    let (meaning, c) := c.skipSpaces.span isUriChar
    if meaning.isEmpty || !endsWord c.peek then .error .badDirective
    else .ok (.handle (String.ofList handle) (String.ofList meaning), c)

def scanDirective : Lexing Unit := do
  let l ← get
  let (name, c) := l.cursor.next.span isNameChar
  if name.isEmpty || !endsWord c.peek then throw .badDirective
  let (t, c) ←
    if name = "YAML".toList then lift (scanVersion c)
    else if name = "TAG".toList then lift (scanHandle c)
    else pure (.otherDirective, c.skipWhile fun ch => !isBreak ch)
  let c ← lift (restOfLine .badDirective c)
  set ({ l with cursor := c }.push t)

/-! ### One token after the other -/

/-- Ends all blocks before a directive, a marker or the end of the text. -/
def endBlocks : Lexing Unit := do
  modify (closeBlocks (-1))
  dropCandidate
  allowKey false

def lexBlockEntry : Lexing Unit := do
  let l ← get
  if !l.inFlow then
    if !l.keyAllowed then throw .misplaced
    openBlock l.cursor.column .blockSequence none
  allowKey true
  dropCandidate
  advance 1 .blockEntry

def lexKey : Lexing Unit := do
  let l ← get
  if !l.inFlow then
    if !l.keyAllowed then throw .misplaced
    openBlock l.cursor.column .blockMapping none
  allowKey !l.inFlow
  dropCandidate
  advance 1 .key

/-- A colon makes the candidate a key. Without one the key is empty. -/
def lexValue : Lexing Unit := do
  let l ← get
  match l.candidates.lookup l.depth with
  | some k =>
    set { l with candidates := l.candidates.filter fun (d, _) => d != l.depth }
    modify (Lexer.insertAt k.token .key)
    if !l.inFlow then openBlock k.column .blockMapping (some k.token)
    allowKey false
  | none =>
    if !l.inFlow then
      if !l.keyAllowed then throw .misplaced
      openBlock l.cursor.column .blockMapping none
    allowKey !l.inFlow
    dropCandidate
  advance 1 .value

def lexOpen (t : Token) : Lexing Unit := do
  noteCandidate
  modify fun l => { l with depth := l.depth + 1 }
  allowKey true
  advance 1 t

def lexClose (t : Token) : Lexing Unit := do
  dropCandidate
  let l ← get
  if !l.inFlow then throw .unexpected
  set { l with depth := l.depth - 1 }
  allowKey false
  advance 1 t

def lexFlowEntry : Lexing Unit := do
  allowKey true
  dropCandidate
  advance 1 .flowEntry

/-- What begins like a key: an alias, an anchor or a tag. -/
def lexProperty (scan : Lexing Unit) : Lexing Unit := do
  noteCandidate
  allowKey false
  scan

def lexBlockText : Lexing Unit := do
  allowKey true
  dropCandidate
  let l ← get
  let (text, c) ← lift (blockText l.indent l.cursor)
  set ({ l with cursor := c }.push (.scalar (String.ofList text) false))

def lexQuoted : Lexing Unit := do
  noteCandidate
  let l ← get
  let (text, c) ← lift (quotedText l.cursor)
  set ({ l with cursor := c, keyAllowed := false }.push (.scalar (String.ofList text) false))

def lexPlain : Lexing Unit := do
  noteCandidate
  let l ← get
  let (text, c, lineEnded) := plainText l.inFlow (l.indent + 1) l.cursor
  set ({ l with cursor := c, keyAllowed := lineEnded }.push (.scalar (String.ofList text) true))

/-- May a plain text begin with this character? -/
def startsPlain (flow : Bool) (ch : Char) (following : Option Char) : Bool :=
  !(endsToken (some ch) || "-?:,[]\x7b\x7d#&*!|>'\"%@`".contains ch)
    || (!endsToken following && (ch = '-' || (!flow && (ch = '?' || ch = ':'))))

/-- Reads the next token; `true` at the end of the text. -/
def lexNext : Lexing Bool := do
  let l ← get
  skipToToken (l.cursor.rest.length + 1)
  forgetStale
  modify fun l => closeBlocks l.cursor.column l
  let l ← get
  let c := l.cursor
  match c.peek with
  | none =>
    endBlocks
    return true
  | some ch =>
    let following := c.peekAt 1
    let alone := endsToken following
    if ch = '%' && c.column = 0 then do endBlocks; scanDirective
    else if c.column = 0 && c.atMarker then do
      endBlocks
      advance 3 (if ch = '-' then .documentStart else .documentEnd)
    else if ch = '[' then lexOpen .openList
    else if ch = '\x7b' then lexOpen .openMapping
    else if ch = ']' then lexClose .closeList
    else if ch = '\x7d' then lexClose .closeMapping
    else if ch = ',' then lexFlowEntry
    else if ch = '-' && alone then lexBlockEntry
    else if ch = '?' && (l.inFlow || alone) then lexKey
    else if ch = ':' && (l.inFlow || alone) then lexValue
    else if ch = '*' then lexProperty (scanName .alias)
    else if ch = '&' then lexProperty (scanName .anchor)
    else if ch = '!' then lexProperty scanTag
    else if (ch = '|' || ch = '>') && !l.inFlow then lexBlockText
    else if ch = '\'' || ch = '"' then lexQuoted
    else if startsPlain l.inFlow ch following then lexPlain
    else throw .strayCharacter
    return false

/-- Each token takes at least one character, so the fuel suffices. -/
def lexAll : (fuel : Nat) → Lexing Unit
  | 0 => throw .unexpected
  | fuel + 1 => do
    if ← lexNext then return () else lexAll fuel

/-- The characters that a document may hold. -/
def isAllowed (c : Char) : Bool :=
  let n := c.toNat
  n = 0x9 || n = 0xA || n = 0xD || (decide (0x20 ≤ n) && decide (n ≤ 0x7E)) || n = 0x85
    || (decide (0xA0 ≤ n) && n != 0xFFFE && n != 0xFFFF)

/-- The tokens of a text; a byte order mark at its start is passed over. -/
def tokensOf (cs : List Char) : Except Problem (List Token) := do
  if !cs.all isAllowed then .error .unprintable
  let cs := if cs.head? = some '\uFEFF' then cs.drop 1 else cs
  let ((), l) ← (lexAll (cs.length + 2)).run (Lexer.start cs)
  return l.tokens.reverse

end NetAtlas.Yaml
