import NetAtlas.Value.Order
import NetAtlas.Yaml.Node

/-!
Reading YAML documents. What a mapping merges in comes before its own entries; of equal keys the
later one counts.
-/

namespace NetAtlas.Yaml

def isMergeKey : Node → Bool
  | .scalar tag _ => tag = mergeTag
  | _ => false

/-- Only an atom may be a key. -/
def keyOf (v : Value) : Except Problem Atom :=
  match v with
  | .atom a => .ok a
  | _ => .error .badKey

/-- Entries one after the other. -/
def collect (es : List (Atom × Value)) : List (Atom × Value) :=
  es.foldl (fun acc (k, v) => assign acc k v) []

mutual

def valueOf : Node → Except Problem Value
  | .scalar tag s => scalarValue tag s
  | .list tag items =>
    if tag = listTag then .list <$> valuesOf items else .error (.unknownTag tag)
  | .mapping tag entries =>
    if tag = mappingTag then do
      let (merged, own) ← entriesOf entries
      return .mapping (collect (merged ++ own))
    else .error (.unknownTag tag)

def valuesOf : List Node → Except Problem (List Value)
  | [] => .ok []
  | n :: ns => do
    let v ← valueOf n
    let vs ← valuesOf ns
    return v :: vs

/-- The entries that are merged in, and a mapping's own. -/
def entriesOf : List (Node × Node) → Except Problem (List (Atom × Value) × List (Atom × Value))
  | [] => .ok ([], [])
  | (k, v) :: rest =>
    if isMergeKey k then do
      let here ← mergedOf v
      let (merged, own) ← entriesOf rest
      return (here ++ merged, own)
    else do
      let key ← keyValueOf k
      let key ← keyOf key
      let value ← valueOf v
      let (merged, own) ← entriesOf rest
      return (merged, (key, value) :: own)

/-- The value of a key; a lone equals sign is a text there. -/
def keyValueOf : Node → Except Problem Value
  | .scalar tag s => if tag = valueTag then .ok (.text s) else scalarValue tag s
  | n => valueOf n

/-- What a mapping, or each of a list of mappings, has to merge in. The first of the list counts
most, so it comes last. -/
def mergedOf : Node → Except Problem (List (Atom × Value))
  | .mapping _ entries => do
    let (merged, own) ← entriesOf entries
    return merged ++ own
  | .list _ items => mergedItems items
  | .scalar .. => .error .badMerge

def mergedItems : List Node → Except Problem (List (Atom × Value))
  | [] => .ok []
  | .mapping _ entries :: rest => do
    let (merged, own) ← entriesOf entries
    let others ← mergedItems rest
    return others ++ merged ++ own
  | _ :: _ => .error .badMerge

end

/-- The value of a text that holds at most one document; without one it is null. -/
def parse (s : String) : Except Problem Value := do
  match ← nodeOf? s.toList with
  | none => return .null
  | some n => valueOf n

end NetAtlas.Yaml
