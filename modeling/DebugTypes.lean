import DebugTypes.Main
import DebugTypes.CType.Constants
import DebugTypes.Proofs.CType.Parts
import DebugTypes.Proofs.CType.Occurrences
import DebugTypes.Proofs.CType.Literals
import DebugTypes.Proofs.CType.Constants
import DebugTypes.Proofs.Catalog.Chains
import DebugTypes.Proofs.Catalog.Expansion
import DebugTypes.Proofs.Catalog.Import
import DebugTypes.Proofs.Catalog.Insertion
import DebugTypes.Proofs.Catalog.Json
import DebugTypes.Proofs.Catalog.Merge
import DebugTypes.Proofs.Catalog.Resolution
import DebugTypes.Proofs.Catalog.Unresolved
import DebugTypes.Proofs.Cursor
import DebugTypes.Proofs.Declaration.QualifiedArray
import DebugTypes.Proofs.Declaration.RoundTrip
import DebugTypes.Proofs.Decoding.Agreement
import DebugTypes.Proofs.Decoding.Bounds
import DebugTypes.Proofs.Decoding.Calls
import DebugTypes.Proofs.Decoding.Consumption
import DebugTypes.Proofs.Decoding.Cycles
import DebugTypes.Proofs.Decoding.Depth
import DebugTypes.Proofs.Decoding.Directory
import DebugTypes.Proofs.Decoding.Ends
import DebugTypes.Proofs.Decoding.Following
import DebugTypes.Proofs.Decoding.Order
import DebugTypes.Proofs.Decoding.Prefix
import DebugTypes.Proofs.Decoding.Reordering
import DebugTypes.Proofs.Decoding.Replay
import DebugTypes.Proofs.Decoding.Shape
import DebugTypes.Proofs.Decoding.Yields
import DebugTypes.Proofs.Store
import DebugTypes.Proofs.Decoding.Unread
import DebugTypes.Proofs.Decoding.Stages
import DebugTypes.Proofs.Decoding.Log
import DebugTypes.Proofs.Decoding.WrapChain
import DebugTypes.Proofs.CommandLine.Agreement
import DebugTypes.Proofs.CommandLine.Outcome
import DebugTypes.Proofs.Lookups
import DebugTypes.Proofs.IntegerField
