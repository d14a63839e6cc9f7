import NetAtlas.Disk
import NetAtlas.Host

/-!
A machine in memory. It keeps all that it is told, and its clock stands still.
-/

namespace NetAtlas

structure Session where
  disk : Disk
  now : String
  seed : Nat
  notices : List Notice
  messages : List Message

namespace Session

/-- A session that nothing has happened in. -/
def start (disk : Disk) (now : String) : Session := ⟨disk, now, 0, [], []⟩

/-- Changes the disk, unless that fails. -/
def change (f : Disk → Except AccessError Disk) : StateM Session (Except AccessError Unit) :=
  fun s =>
    match f s.disk with
    | .ok disk => (.ok (), { s with disk })
    | .error e => (.error e, s)

def isDirectory (d : Disk) (path : String) : Bool :=
  match d.find? path with
  | some .directory => true
  | _ => false

/-- The painter of this machine leaves the canvas empty. -/
def paint (format : String) : Option (List UInt8) :=
  if Picture.formats.contains format then some [] else none

instance : Host (StateM Session) where
  read path := return (← get).disk.read path
  isThere path := return ((← get).disk.find? path).isSome
  isDirectory path := return isDirectory (← get).disk path
  makeDirectory path := change fun d => d.makeDirectory path
  write path content := change fun d => d.write path content
  remove path := change fun d => d.remove path
  workingDirectory := return "/" ++ "/".intercalate (← get).disk.working
  now := return (← get).now
  seconds := return 0.0
  entropy := return (← get).seed
  paint format _ := return paint format
  report n := modify fun s => { s with notices := s.notices ++ [n] }
  say msg := modify fun s => { s with messages := s.messages ++ [msg] }

end Session

end NetAtlas
