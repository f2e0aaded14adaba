import SmartHome.Dict
import SmartHome.Platform
import SmartHome.Vocabulary
import SmartHome.Yaml.Value
import SmartHome.Document.Loader
import SmartHome.Device.Decode
import SmartHome.Text.Sorted
import SmartHome.Json.Printer
import SmartHome.Json.Symbol
import SmartHome.Text.Split
import SmartHome.HomeError
import SmartHome.Device.Registry
import SmartHome.Home.Decode
import SmartHome.Home.Validation
import SmartHome.Home.Presets
import SmartHome.Home.Selections
import SmartHome.Entity.Expansion
import SmartHome.Compiled.Json
import SmartHome.Device.Listing
import SmartHome.Simulator.Basic
import SmartHome.CommandLine.Commands
import SmartHome.Main
import SmartHome.Proofs.Dictionary
import SmartHome.Proofs.Failure
import SmartHome.Proofs.Overlay
import SmartHome.Proofs.Demand
import SmartHome.Proofs.Preset
import SmartHome.Proofs.Compile
import SmartHome.Proofs.Rejection
import SmartHome.Proofs.Address
import SmartHome.Proofs.Correspondence
import SmartHome.Proofs.Selected
import SmartHome.Proofs.SelfContained
import SmartHome.Proofs.Locality
import SmartHome.Proofs.Recompile
import SmartHome.Proofs.Path
import SmartHome.Proofs.Place
import SmartHome.Proofs.Reading
import SmartHome.Proofs.Listing
import SmartHome.Proofs.Loading
import SmartHome.Proofs.Bound
import SmartHome.Proofs.Inclusion
import SmartHome.Proofs.Acyclic
import SmartHome.Proofs.Reentry
import SmartHome.Proofs.Reach
import SmartHome.Proofs.Expanded
import SmartHome.Document.Session
import SmartHome.Proofs.Session
import SmartHome.Proofs.Relocation
import SmartHome.Proofs.BaseDirectory
import SmartHome.Proofs.Fields
import SmartHome.Proofs.TypeDirectory
import SmartHome.Proofs.DeclaredTypes
import SmartHome.Proofs.Identifier
import SmartHome.Proofs.Simulated
import SmartHome.Proofs.NetEffect
import SmartHome.Proofs.Registered
import SmartHome.Proofs.InPlace
import SmartHome.Proofs.Substituted
import SmartHome.Proofs.TakenOver
import SmartHome.Proofs.Flags
import SmartHome.Proofs.SymbolGrammar
import SmartHome.Proofs.Draft
import SmartHome.Proofs.Motion
import SmartHome.Proofs.Arrival
import SmartHome.Proofs.Playlist
import SmartHome.Proofs.Published
import SmartHome.Proofs.Applied
import SmartHome.Proofs.Canonical
import SmartHome.Proofs.Directory
import SmartHome.Proofs.SpecGrammar
import SmartHome.Proofs.ArgumentGrammar
import SmartHome.Proofs.StateTokens
