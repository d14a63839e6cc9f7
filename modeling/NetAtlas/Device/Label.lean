import NetAtlas.Text.Case
import NetAtlas.Value.Reading

/-!
Roles and states of devices. An inventory writes them as names in any spelling, or as codes;
whatever it writes that is no label counts as unknown. A topology writes them by name.
-/

namespace NetAtlas

/-- What a device does in the network. -/
inductive Role where
  | router
  | switch
  | firewall
  | server
  | loadBalancer
  | gateway
  | unknown
deriving DecidableEq, Inhabited, Repr

/-- How a device fares. -/
inductive Status where
  | online
  | offline
  | warning
  | critical
  | maintenance
  | unknown
deriving DecidableEq, Inhabited, Repr

/-- The name inside a spelling: no blanks around it, lower case, words joined by underscores, and
without the stem that some inventories put in front. -/
def labelToken (stem s : String) : List Char :=
  let token := (Text.lower (Text.trim s.toList)).map fun c => if c = '-' ∨ c = ' ' then '_' else c
  if stem.toList.isPrefixOf token then token.drop stem.length else token

/-- Reads a label from a code, from a text that holds a code, or from a spelling of its name. A
text of digits that form no numeral is a fault. -/
def readLabel {α : Type} (stem : String) (ofCode : Int → α) (ofName? : String → Option α)
    (unknown : α) : Value → Read α
  | .int n => .ok (ofCode n)
  | .text s =>
    let token := String.ofList (labelToken stem s)
    if Text.allDigits token.toList then ofCode <$> (Value.text token).toInt
    else .ok ((ofName? token).getD unknown)
  | _ => .ok unknown

namespace Role

def name : Role → String
  | .router => "router"
  | .switch => "switch"
  | .firewall => "firewall"
  | .server => "server"
  | .loadBalancer => "load_balancer"
  | .gateway => "gateway"
  | .unknown => "unknown"

def all : List Role := [.router, .switch, .firewall, .server, .loadBalancer, .gateway, .unknown]

def ofName? (s : String) : Option Role := all.find? fun r => r.name = s

def ofCode : Int → Role
  | 1 => .router
  | 2 => .switch
  | 3 => .firewall
  | 4 => .server
  | _ => .unknown

def read : Value → Read Role := readLabel "device_type_" ofCode ofName? .unknown

/-- A role by its exact name. -/
def ofValue (v : Value) : Read Role :=
  match v with
  | .text s =>
    match ofName? s with
    | some r => .ok r
    | none => .error (.notAmong v "NodeType")
  | _ => .error (.notAmong v "NodeType")

end Role

namespace Status

def name : Status → String
  | .online => "online"
  | .offline => "offline"
  | .warning => "warning"
  | .critical => "critical"
  | .maintenance => "maintenance"
  | .unknown => "unknown"

def all : List Status := [.online, .offline, .warning, .critical, .maintenance, .unknown]

def ofName? (s : String) : Option Status := all.find? fun t => t.name = s

def ofCode : Int → Status
  | 1 => .online
  | 2 => .offline
  | 3 => .warning
  | 4 => .critical
  | 5 => .maintenance
  | _ => .unknown

def read : Value → Read Status := readLabel "device_status_" ofCode ofName? .unknown

/-- A state by its exact name. -/
def ofValue (v : Value) : Read Status :=
  match v with
  | .text s =>
    match ofName? s with
    | some t => .ok t
    | none => .error (.notAmong v "NodeStatus")
  | _ => .error (.notAmong v "NodeStatus")

end Status

end NetAtlas
