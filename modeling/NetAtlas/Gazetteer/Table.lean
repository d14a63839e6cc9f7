import NetAtlas.Text.Blank

/-!
Tables of comma-separated values. Quotes are strict: after a closing quote only a comma or the end
of the line may come, and a record that breaks this rule is left out.
-/

namespace NetAtlas

namespace Table

/-- Where in a record the reader stands. -/
inductive Position where
  | fieldStart
  | bare
  | quoted
  | afterQuote
  /-- In a line of which nothing is kept. -/
  | spoiled
deriving DecidableEq, Repr

def endsLine (c : Char) : Bool := c = '\n' || c = '\r'

def cellText (cell : List Char) : String := String.ofList cell.reverse

/-- The records of a text, each a list of fields. `cell` and `row` hold what is read of the
current field and record, last part first. An open quote at the end spoils its record. -/
def recordsFrom : Position → (cell : List Char) → (row : List String) → List Char →
    List (List String)
  | .fieldStart, _, row, [] => [("" :: row).reverse]
  | .bare, cell, row, [] => [(cellText cell :: row).reverse]
  | .afterQuote, cell, row, [] => [(cellText cell :: row).reverse]
  | .quoted, _, _, [] => []
  | .spoiled, _, _, [] => []
  | .fieldStart, cell, row, c :: cs =>
    if endsLine c then ("" :: row).reverse :: recordsFrom .fieldStart [] [] cs
    else if c = '"' then recordsFrom .quoted [] row cs
    else if c = ' ' then recordsFrom .fieldStart cell row cs
    else if c = ',' then recordsFrom .fieldStart [] ("" :: row) cs
    else recordsFrom .bare [c] row cs
  | .bare, cell, row, c :: cs =>
    if endsLine c then (cellText cell :: row).reverse :: recordsFrom .fieldStart [] [] cs
    else if c = ',' then recordsFrom .fieldStart [] (cellText cell :: row) cs
    else recordsFrom .bare (c :: cell) row cs
  | .quoted, cell, row, c :: cs =>
    if c = '"' then recordsFrom .afterQuote cell row cs
    else recordsFrom .quoted (c :: cell) row cs
  | .afterQuote, cell, row, c :: cs =>
    if endsLine c then (cellText cell :: row).reverse :: recordsFrom .fieldStart [] [] cs
    else if c = '"' then recordsFrom .quoted (c :: cell) row cs
    else if c = ',' then recordsFrom .fieldStart [] (cellText cell :: row) cs
    else recordsFrom .spoiled [] [] cs
  | .spoiled, _, _, c :: cs =>
    if endsLine c then recordsFrom .fieldStart [] [] cs else recordsFrom .spoiled [] [] cs

/-- A record of one blank field is no record. -/
def isBlankRecord : List String → Bool
  | [] => true
  | [field] => field.toList.all Text.isBlank
  | _ => false

def records (text : String) : List (List String) :=
  (recordsFrom .fieldStart [] [] text.toList).filter fun r => !isBlankRecord r

end Table

/-- A table with as many cells in each row as it has columns; a row that is too short ends in
missing cells. -/
structure Table where
  columns : Nat
  rows : List (List (Option String))

namespace Table

/-- A record as a row of `columns` cells after `index` leading ones, of which only `kept` fields
count if it has too many. -/
def rowOf (columns index kept : Nat) (record : List String) : List (Option String) :=
  let fields := if index + columns < record.length then record.take kept else record
  let cells := fields.map some ++ List.replicate (index + columns - fields.length) none
  cells.drop index

/-- How many leading fields are no cells but name the row, and the records of the rows. They are
the surplus of the first record over the header. When the second record is longer than the header
by just the length of the first one, the first one holds names for the leading fields. -/
def indexed (columns : Nat) : List (List String) → Nat × List (List String)
  | [] => (0, [])
  | first :: rest =>
    match rest with
    | second :: _ =>
      if second.length = first.length + columns then (first.length, rest)
      else (first.length - columns, first :: rest)
    | [] => (first.length - columns, [first])

/-- The table of a text whose first record is the header; of rows that are too long, `kept` fields
count. -/
def ofText? (kept : Nat) (text : String) : Option Table :=
  match records text with
  | [] => none
  | header :: body =>
    let columns := header.length
    let (index, body) := indexed columns body
    some { columns, rows := body.map (rowOf columns index kept) }

end Table

end NetAtlas
