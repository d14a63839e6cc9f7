import NetAtlas.Device
import NetAtlas.Notice

/-!
Turning inventory records into devices. A record that is none is reported and left out.
-/

namespace NetAtlas.Inventory

/-- What a record gives: a device, or a notice that it is left out. Only a number out of range stops
the whole reading. -/
def acceptOne (record : Value) : Read (Device ⊕ Notice) :=
  match record with
  | .mapping es =>
    match fieldOf? es "id" with
    | none => .ok (.inr (.malformedRecord record))
    | some id =>
      match Device.ofEntries es with
      | .ok d => .ok (.inl d)
      | .error .outOfRange => .error .outOfRange
      | .error .infinite => .error .infinite
      | .error cause => .ok (.inr (.recordSkipped id cause))
  | _ => .ok (.inr (.malformedRecord record))

/-- The devices in order of their records, and what is reported on the way. -/
def accept : List Value → Read (List Device) × List Notice
  | [] => (.ok [], [])
  | record :: rest =>
    match acceptOne record with
    | .error f => (.error f, [])
    | .ok (.inl d) =>
      let (devices, notices) := accept rest
      ((d :: ·) <$> devices, notices)
    | .ok (.inr notice) =>
      let (devices, notices) := accept rest
      (devices, notice :: notices)

/-- Devices from whatever an inventory sent. -/
def acceptAll (records : Value) : Read (List Device) × List Notice :=
  match records.items with
  | .ok vs => accept vs
  | .error f => (.error f, [])

end NetAtlas.Inventory
