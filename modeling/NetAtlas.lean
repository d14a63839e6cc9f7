import NetAtlas.Gazetteer.Loading
import NetAtlas.Geography
import NetAtlas.Inventory.File
import NetAtlas.Topology.File
import NetAtlas.Location.Resolve
import NetAtlas.Projection.MapFile
import NetAtlas.Projection.Placement
import NetAtlas.Random.Twister
import NetAtlas.Settings.File
import NetAtlas.Settings.Summary
import NetAtlas.Synthesis
import NetAtlas.Topology.Audit
import NetAtlas.Disk
import NetAtlas.Service
import NetAtlas.Host.Session
import NetAtlas.Topology.Export
import NetAtlas.Command
import NetAtlas.Picture.Png
import NetAtlas.Picture.Svg
import NetAtlas.Main
import NetAtlas.Proofs.Location.Country
import NetAtlas.Proofs.Synthesis.Audit
import NetAtlas.Proofs.Topology.Loading
import NetAtlas.Proofs.Service.History
import NetAtlas.Proofs.Service.Thinning
import NetAtlas.Proofs.Projection.Viewport
import NetAtlas.Proofs.Synthesis.Identifiers
import NetAtlas.Proofs.Inventory.Encoding
import NetAtlas.Proofs.Topology.Encoding
import NetAtlas.Proofs.Service.Agreement
import NetAtlas.Proofs.Settings.Adequate
import NetAtlas.Proofs.Settings.Refused
import NetAtlas.Proofs.Synthesis.Counts
import NetAtlas.Proofs.Synthesis.Density
import NetAtlas.Proofs.Synthesis.Links
import NetAtlas.Proofs.Synthesis.Bounds
import NetAtlas.Proofs.Location.Spelling
import NetAtlas.Proofs.Text.Words
import NetAtlas.Proofs.Location.Hyphens
import NetAtlas.Proofs.Decimal.Numeral
import NetAtlas.Proofs.Device.Label
import NetAtlas.Proofs.FloatExact
import NetAtlas.Proofs.Gazetteer.Column
import NetAtlas.Proofs.Gazetteer.Rows
import NetAtlas.Proofs.Gazetteer.Surplus
import NetAtlas.Proofs.Inventory.Labels
import NetAtlas.Proofs.Command.Lookup
import NetAtlas.Proofs.Topology.Export
import NetAtlas.Proofs.Projection.MapFile
import NetAtlas.Proofs.Projection.Rescaling
import NetAtlas.Proofs.Projection.Antimeridian
