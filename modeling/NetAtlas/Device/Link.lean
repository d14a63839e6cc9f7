import NetAtlas.Value.Reading

/-!
Links of a device to other devices, with what is measured on them.
-/

namespace NetAtlas

structure Link where
  id : String
  name : String
  source : String
  target : String
  /-- A link made from the settings carries whatever value the catalogue of bandwidths has. -/
  bandwidth : Value
  utilization : Float
  latency : Float
  distance : Float
  uptime : String
  errorRate : Float
  availability : Float
  status : String
  medium : String
deriving Inhabited

namespace Link

def toValue (l : Link) : Value :=
  .record
    [("link_id", .text l.id), ("name", .text l.name), ("from_node", .text l.source),
     ("to_node", .text l.target), ("status", .text l.status), ("link_type", .text l.medium),
     ("bandwidth", l.bandwidth), ("utilization_percent", .float l.utilization),
     ("latency_ms", .float l.latency), ("distance_km", .float l.distance),
     ("uptime", .text l.uptime), ("error_rate", .float l.errorRate),
     ("availability_percent", .float l.availability)]

def ofValue (v : Value) : Read Link := do
  let es ← v.indexed
  let id ← requiredText es "link_id"
  let source ← requiredText es "from_node"
  let target ← requiredText es "to_node"
  let utilization ← floatField es "utilization_percent"
  let latency ← floatField es "latency_ms"
  let distance ← floatField es "distance_km"
  let errorRate ← floatField es "error_rate"
  let availability ← floatField es "availability_percent"
  return {
    id, source, target, utilization, latency, distance, errorRate, availability
    name := textField es "name" ""
    bandwidth := .text (textField es "bandwidth" "")
    uptime := textField es "uptime" ""
    status := textField es "status" "active"
    medium := textField es "link_type" "ethernet" }

end Link

end NetAtlas
