import NetAtlas.Topology

/-!
Settings of the program, by section. A setting keeps the value that the document gave it: what the
checks let pass may still be of a type that its use refuses.
-/

namespace NetAtlas

/-- Reference files: the table of cities, and the map that the projection is calibrated by. -/
structure SourceSettings where
  gazetteer : String
  map : Option String
deriving DecidableEq

structure ProjectionSettings where
  viewWidth : Value
  viewHeight : Value
  maxLatitude : Value
  precision : Value

structure SynthesisSettings where
  /-- Nothing asks for a seed that nobody knows. -/
  seed : Value
  /-- One more edge is tried for each so many devices. -/
  divisor : Value
  weights : Value × Value
  costs : Value × Value
  linkCounts : Value × Value
  bandwidths : List Value
  zoom : Value
  healthy : Value
  warning : Value

structure ServiceSettings where
  name : Value
  area : Value
  inventoryName : Value
  inventoryArea : Value
  query : Value
  timeout : Value
  topologyId : Value

structure OutputSettings where
  indent : Value
  dpi : Value

structure Settings where
  sources : SourceSettings
  projection : ProjectionSettings
  synthesis : SynthesisSettings
  service : ServiceSettings
  output : OutputSettings

namespace ProjectionSettings

def default : ProjectionSettings := ⟨.float 1000.0, .float 500.0, .float 85.0, .int 4⟩

end ProjectionSettings

namespace SynthesisSettings

def defaultBandwidths : List Value :=
  ["1Gbps", "10Gbps", "25Gbps", "40Gbps", "100Gbps"].map .text

def default : SynthesisSettings where
  seed := .null
  divisor := .int 3
  weights := (.float 1.0, .float 101.0)
  costs := (.int 1, .int 100)
  linkCounts := (.int 1, .int 3)
  bandwidths := defaultBandwidths
  zoom := .int 8
  healthy := .float 90.0
  warning := .float 70.0

end SynthesisSettings

namespace ServiceSettings

def default : ServiceSettings where
  name := .text "Topol"
  area := .int 0
  inventoryName := .text "NetDev"
  inventoryArea := .int 0
  query := .text "select * from NetworkDevice where Id=* limit 3000"
  timeout := .float 30.0
  topologyId := .text Topology.defaultId

end ServiceSettings

namespace OutputSettings

def default : OutputSettings := ⟨.int 2, .int 150⟩

end OutputSettings

end NetAtlas
