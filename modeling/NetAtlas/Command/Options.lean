import NetAtlas.Text.Digit

/-!
Reading the words of a command line. A word that begins with a dash is a switch, unless it is a
negative number or has a space in it; two dashes by themselves make all words behind them plain.
Long switches may be cut short as long as they stay unique.
-/

namespace NetAtlas.Command

/-- Why words are not read to their end. -/
inductive Stop where
  | help
  | rejected
deriving DecidableEq, Repr

/-- A switch, by all its names. One that takes a value says which values will do. -/
structure Switch where
  key : String
  names : List String
  value? : Option (String → Bool)

/-- How many words a place takes. -/
inductive Arity where
  | one
  | atMostOne
  | atLeastOne
deriving DecidableEq, Repr

/-- A place for plain words, and which words will do. -/
structure Slot where
  key : String
  arity : Arity
  accepts : String → Bool

/-- A word as it is read on its own. -/
inductive Word where
  | plain (text : String)
  | dashes
  | switch (s : Switch) (long : Bool) (value? : Option (List Char))
  | unknown

/-- What words said: keys with their values, in order. -/
abbrev Given := List (String × String)

def flag (key : String) (names : List String) : Switch := ⟨key, names, none⟩

def valued (key : String) (names : List String) : Switch := ⟨key, names, some fun _ => true⟩

def helpSwitch : Switch := flag "help" ["-h", "--help"]

/-- The switch of a name. -/
def named? (switches : List Switch) (name : String) : Option Switch :=
  switches.find? fun s => s.names.contains name

/-- A dash and digits, with a point before or among them. -/
def isNegativeNumber (cs : List Char) : Bool :=
  match cs with
  | '-' :: rest =>
    match rest.dropWhile Text.isDigit with
    | [] => !rest.isEmpty
    | '.' :: more => !more.isEmpty && more.all Text.isDigit
    | _ => false
  | _ => false

def isLong (cs : List Char) : Bool := cs.take 2 = ['-', '-']

/-- A text before its first equals sign, and behind it if there is one. -/
def splitValue (cs : List Char) : List Char × Option (List Char) :=
  let name := cs.takeWhile (· ≠ '=')
  (name, if name.length = cs.length then none else some (cs.drop (name.length + 1)))

/-- All switches that a long word may be short for. -/
def shortenings (switches : List Switch) (cs : List Char) : List Word :=
  let (name, value?) := splitValue cs
  switches.flatMap fun s =>
    (s.names.filter fun full => name.isPrefixOf full.toList).map fun _ => .switch s true value?

/-- A short switch with its value, or with more switches, right behind it. -/
def clusters (switches : List Switch) (cs : List Char) : List Word :=
  match named? switches (String.ofList (cs.take 2)) with
  | some s => [.switch s false (some (cs.drop 2))]
  | none => []

/-- A word with a dash in front that is no name by itself. -/
def wordOfDash (switches : List Switch) (cs : List Char) : Except Stop Word :=
  match if isLong cs then shortenings switches cs else clusters switches cs with
  | [w] => .ok w
  | _ :: _ :: _ => .error .rejected
  | [] =>
    if isNegativeNumber cs || cs.contains ' ' then .ok (.plain (String.ofList cs)) else .ok .unknown

def wordOf (switches : List Switch) (word : String) : Except Stop Word :=
  let cs := word.toList
  if cs.head? ≠ some '-' then .ok (.plain word)
  else
    match named? switches word with
    | some s => .ok (.switch s (isLong cs) none)
    | none =>
      if cs.length = 1 then .ok (.plain word)
      else
        match splitValue cs with
        | (name, some value) =>
          match named? switches (String.ofList name) with
          | some s => .ok (.switch s (isLong cs) (some value))
          | none => wordOfDash switches cs
        | _ => wordOfDash switches cs

/-- All words on their own. -/
def wordsOf (switches : List Switch) : List String → Except Stop (List Word)
  | [] => .ok []
  | "--" :: rest => .ok (.dashes :: rest.map .plain)
  | word :: rest => do
    let w ← wordOf switches word
    let ws ← wordsOf switches rest
    return w :: ws

/-- Takes what a switch says, unless it is a cry for help or a value that will not do. -/
def take (s : Switch) (value : String) : Except Stop Given :=
  if s.key = helpSwitch.key then .error .help
  else
    match s.value? with
    | none => .ok [(s.key, value)]
    | some accepts => if accepts value then .ok [(s.key, value)] else .error .rejected

/-- A switch that stands alone: its value, if it takes one, is the next word. -/
def alone (s : Switch) (rest : List Word) : Except Stop (List (Switch × String) × List Word) :=
  match s.value?, rest with
  | none, _ => .ok ([(s, "")], rest)
  | some _, .plain value :: rest => .ok ([(s, value)], rest)
  | some _, _ => .error .rejected

/-- A short switch and the characters behind it. What is no switch among them is left over. -/
def cluster (switches : List Switch) (s : Switch) :
    List Char → List Word → Except Stop (List (Switch × String) × List Word)
  | [], rest => alone s rest
  | c :: cs, rest =>
    if s.value?.isSome then .ok ([(s, String.ofList (c :: cs))], rest)
    else
      match named? switches (String.ofList ['-', c]) with
      | none => .ok ([(s, "")], .unknown :: rest)
      | some next => do
        let (more, rest) ← cluster switches next cs rest
        return ((s, "") :: more, rest)

/-- What a switch and the words behind it say. -/
def switched (switches : List Switch) (s : Switch) (long : Bool) (value? : Option (List Char))
    (rest : List Word) : Except Stop (List (Switch × String) × List Word) :=
  match value? with
  | none => alone s rest
  | some value =>
    if s.value?.isSome then .ok ([(s, String.ofList value)], rest)
    else if long || value.isEmpty then .error .rejected
    else cluster switches s value rest

/-- Fills slots with a run of plain words, as many slots as possible. Also gives the slots and
words that are left, and whether any slot was filled. -/
def fill : List Slot → List String → Except Stop (Given × List Slot × List String × Bool)
  | [], words => .ok ([], [], words, false)
  | slot :: slots, words =>
    match slot.arity, words with
    | .atMostOne, [] => do
      let (given, slots, words, _) ← fill slots []
      return (given, slots, words, true)
    | _, [] => .ok ([], slot :: slots, [], false)
    | .atLeastOne, words =>
      if words.all slot.accepts then .ok (words.map fun w => (slot.key, w), slots, [], true)
      else .error .rejected
    | _, word :: words =>
      if slot.accepts word then do
        let (given, slots, words, _) ← fill slots words
        return ((slot.key, word) :: given, slots, words, true)
      else .error .rejected

def Word.plain? : Word → Option String
  | .plain text => some text
  | _ => none

def Word.isPlain : Word → Bool
  | .plain _ | .dashes => true
  | _ => false

/-- What has been read so far; `stray` says that there was a word that has no place. -/
structure Reading where
  given : Given
  slots : List Slot
  stray : Bool

/-- Reads the plain words at the front. Words without a place are stray. -/
def Reading.run (r : Reading) (run : List Word) : Except Stop Reading := do
  let (given, slots, left, filled) ← fill r.slots (run.filterMap Word.plain?)
  let stray := r.stray || !left.isEmpty || (!filled && !run.isEmpty)
  return ⟨r.given ++ given, slots, stray⟩

/-- Reads words; each round takes one at least. -/
def Reading.words (switches : List Switch) : (fuel : Nat) → Reading → List Word →
    Except Stop Reading
  | 0, r, _ => .ok r
  | fuel + 1, r, ws =>
    match ws.span Word.isPlain with
    | (run, []) => r.run run
    | (run, w :: rest) => do
      let r ← if run.isEmpty then pure r else r.run run
      match w with
      | .switch s long value? =>
        let (found, rest) ← switched switches s long value? rest
        let given ← found.mapM fun (s, value) => take s value
        Reading.words switches fuel { r with given := r.given ++ given.flatten } rest
      | _ => Reading.words switches fuel { r with stray := true } rest

/-- Reads all words. Each slot but the last kind of them has to be filled, each required key has to
be given, and no word may be stray. -/
def readWords (switches : List Switch) (slots : List Slot) (required : List String)
    (words : List String) : Except Stop Given := do
  let ws ← wordsOf switches words
  let r ← Reading.words switches (ws.length + 1) ⟨[], slots, false⟩ ws
  let missing (key : String) : Bool := (r.given.lookup key).isNone
  if r.stray || !r.slots.isEmpty || required.any missing then .error .rejected
  else return r.given

/-- The value of a key; of several the last counts. -/
def valueOf? (given : Given) (key : String) : Option String := given.reverse.lookup key

end NetAtlas.Command
