import NetAtlas.Random.Seed
import NetAtlas.Random.Twister
import NetAtlas.Service

/-!
Starting a service from its settings alone. It draws from a generator of its own, which the seed of
the settings stands for.
-/

namespace NetAtlas

/-- The generator for a seed of the settings. Without a seed nobody foresees it. -/
def Twister.ofSetting (entropy : Nat) : Value → Read Twister
  | .null => .ok (ofSeed entropy)
  | v => ofSeed <$> Random.seedOf v

/-- Starts a service with the gazetteer of a file and a generator of its own. -/
def Service.launch (s : Settings) (file : Except AccessError (List UInt8)) (entropy : Nat) :
    Except Failure (Service Twister) × List Notice :=
  match Twister.ofSetting entropy s.synthesis.seed with
  | .ok source =>
    let (service, notices) := Service.activate s file source
    (.ok service, notices)
  | .error f => (.error (.fault f), (Gazetteer.loadOrEmpty s.sources.gazetteer file).2)

end NetAtlas
