import NetAtlas.Settings.Reading
import NetAtlas.Text.Lines
import NetAtlas.Text.Utf8
import NetAtlas.Yaml

/-!
Settings in YAML files. The data files that they name are looked for from the directory that the
settings are in.
-/

namespace NetAtlas.Settings

/-- The settings with their data files as seen from a directory. -/
def seenFrom (directory : String) (s : Settings) : Settings :=
  { s with
    sources :=
      { gazetteer := Path.join directory s.sources.gazetteer
        map := s.sources.map.map (Path.join directory) } }

/-- The settings of a document. An empty one leaves everything at its default. -/
def ofDocument (document : Value) : Read Settings × List Notice :=
  match document with
  | .null => read []
  | .mapping es => read es
  | _ => (.error (.rejected "Configuration root must be a mapping"), [])

/-- A value that its tag excludes is a fault of the value and not of the text around it. -/
def faultOf? : Yaml.Problem → Option Fault
  | .badTruth text => some (.missingField text)
  | .badInteger text => some (.notAnInteger text)
  | .badFloat text => some (.rejected ("could not convert string to float: " ++ quoted text))
  | _ => none

/-- The settings in the content of a file. -/
def ofBytes (bytes : List UInt8) : Except Failure Settings × List Notice :=
  let text := Text.unixLines (Text.Utf8.decode bytes).toList
  match Yaml.parse (String.ofList text) with
  | .error p =>
    match faultOf? p with
    | some f => (.error (.fault f), [])
    | none => (.error (.notYaml p.message), [.badYaml p.message])
  | .ok document =>
    let (settings, notices) := ofDocument document
    (settings.mapError .fault, notices)

/-- Loads settings from a path, given what reading the file gave. -/
def load (path : String) (file : Except AccessError (List UInt8)) :
    Except Failure Settings × List Notice :=
  match file with
  | .error (.notFound _) | .error (.notADirectory _) =>
    (.error (.noSettings path), [.readingSettings path])
  | .error e => (.error (.access e), [.readingSettings path])
  | .ok bytes =>
    let (settings, notices) := ofBytes bytes
    (settings.map (seenFrom (Path.parent path)), .readingSettings path :: notices)

end NetAtlas.Settings
