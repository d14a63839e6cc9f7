import NetAtlas.Calendar
import NetAtlas.Command
import NetAtlas.Picture.Png
import NetAtlas.Picture.Svg
import Std.Time.DateTime.Timestamp

/-!
The program: the commands on the machine that it runs on.
-/

namespace NetAtlas.System

/-- Is there anything at a path? -/
def resolves (path : String) : IO Bool := do
  try
    let _ ← IO.FS.realPath path
    return true
  catch _ => return false

def isDirectory (path : String) : IO Bool := resolves (path ++ "/.")

/-- Does something with a path, and says why it could not be done. -/
def attempt {α : Type} (path : String) (act : IO α) : IO (Except AccessError α) := do
  try
    return .ok (← act)
  catch e =>
    match e with
    | .noFileOrDirectory .. | .noSuchThing .. => return .error (.notFound path)
    | .alreadyExists .. => return .error (.alreadyThere path)
    | .inappropriateType .. =>
      return .error (if ← isDirectory path then .isADirectory path else .notADirectory path)
    | _ => return .error (if ← isDirectory path then .isADirectory path else .denied path)

/-- Seconds since the start of 1970. -/
def unixTime : IO Int := return (← Std.Time.Timestamp.now).toSecondsSinceUnixEpoch.val

/-- A number of eight random bytes. -/
def randomNumber : IO Nat := do
  let bytes ← IO.getRandomBytes 8
  return bytes.toList.foldl (fun n b => n * 256 + b.toNat) 0

/-- The painter of this program knows two formats. -/
def paint (format : String) (p : Picture) : Option (List UInt8) :=
  match format with
  | "svg" => some p.svg.toUTF8.toList
  | "png" => some p.png
  | _ => none

instance : Host IO where
  read path := attempt path do return (← IO.FS.readBinFile path).toList
  isThere := resolves
  isDirectory := isDirectory
  makeDirectory path := attempt path (IO.FS.createDir path)
  write path content := attempt path (IO.FS.writeBinFile path ⟨content.toArray⟩)
  remove path := attempt path (IO.FS.removeFile path)
  workingDirectory := return (← IO.currentDir).toString
  now := return Calendar.timeText (← unixTime)
  seconds := return Float.ofNat (← IO.monoMsNow) / 1000.0
  entropy := randomNumber
  paint format p := return paint format p
  report n := do
    let time := Calendar.clockText (← unixTime)
    IO.eprintln s!"{time} [{n.level.name}] geotopo.{n.speaker}: {n.text}"
  say msg := IO.println msg.text

end NetAtlas.System

open NetAtlas in
/-- Runs the command of a command line. One that cannot be read is answered with the usage. -/
def main (words : List String) : IO UInt32 := do
  match Invocation.read words with
  | .ok i => return UInt32.ofNat (← i.run)
  | .error .help =>
    IO.println Message.usageText
    return 0
  | .error .rejected =>
    IO.eprintln Message.usageText
    return UInt32.ofNat Command.misuse
