import Introspection.Generator
import Introspection.Markup.Writer
import Introspection.Proofs.Registry.Step
import Introspection.Proofs.Registry.Index
import Introspection.Proofs.Registry.Growth
import Introspection.Proofs.Registry.Accepted
import Introspection.Proofs.Registry.Views
import Introspection.Proofs.Registry.Conversions
import Introspection.Proofs.Conversion
import Introspection.Proofs.Bridge.Cases
import Introspection.Proofs.Bridge.Handle
import Introspection.Proofs.Bridge.Bitfield
import Introspection.Proofs.Bridge.Depth
import Introspection.Proofs.Signal.Lines
import Introspection.Proofs.Signal.Account
import Introspection.Proofs.Entity.Warnings
import Introspection.Proofs.Entity.Reading
import Introspection.Proofs.Repository.Declarations
import Introspection.Proofs.Repository.Refusal
import Introspection.Proofs.Repository.Namespaces
import Introspection.Proofs.Repository.Partition
import Introspection.Proofs.Hierarchy.Chain
import Introspection.Proofs.Hierarchy.Validity
import Introspection.Proofs.Signal.Valueless
import Introspection.Proofs.Signal.Agreement
import Introspection.Proofs.Registry.Names
import Introspection.Proofs.Hierarchy.Cycles
import Introspection.Proofs.Generation
import Introspection.Proofs.Markup.Reading
import Introspection.Proofs.Markup.Tags
import Introspection.Proofs.Markup.RoundTrip
import Introspection.Proofs.Hierarchy.Ancestors
import Introspection.Proofs.Text.ByteOrder
import Introspection.Proofs.Text.Pieces
import Introspection.Proofs.Hierarchy.Members
import Introspection.Proofs.Signal.Verdict
import Introspection.Proofs.Signal.Planning
import Introspection.Proofs.Registry.Kinds
import Introspection.Proofs.Bridge.Constness
import Introspection.Proofs.TypeRef
import Introspection.Proofs.Entity.Diagnostics
import Introspection.Proofs.Repository.Unnamed
import Introspection.Proofs.Repository.Stems
import Introspection.Proofs.Markup.Decoding
import Introspection.Proofs.Signal.Comments
import Introspection.Proofs.Naming
