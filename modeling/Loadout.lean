import Loadout.Attribute
import Loadout.Build
import Loadout.Character.Blank
import Loadout.Character.Case
import Loadout.Character.Digit
import Loadout.Character.Folding
import Loadout.Character.Greek
import Loadout.Character.Letter
import Loadout.Character.Printable
import Loadout.Character.Ranges
import Loadout.Character.Word
import Loadout.Condition
import Loadout.Context
import Loadout.Damage.Basic
import Loadout.Damage.Conversion
import Loadout.Damage.Graph
import Loadout.Damage.Matrix
import Loadout.Damage.Table
import Loadout.Document.Basic
import Loadout.Document.Reader
import Loadout.Document.Writer
import Loadout.Environment.Basic
import Loadout.Environment.Changes
import Loadout.Fault
import Loadout.FlagSet
import Loadout.Layer.Equipment
import Loadout.Layer.Passives
import Loadout.Layer.Settings
import Loadout.Layer.Skills
import Loadout.Line.Builtin
import Loadout.Line.Form
import Loadout.Line.Grammar
import Loadout.Line.Holder
import Loadout.Line.Known
import Loadout.Line.Outcome
import Loadout.Line.Parser
import Loadout.Line.Phrase
import Loadout.Line.Tables
import Loadout.Modifier.Basic
import Loadout.Modifier.Document
import Loadout.Number.Decimal
import Loadout.Number.Hexadecimal
import Loadout.Number.Scalar
import Loadout.Number.Shortest
import Loadout.Origin
import Loadout.Pattern.Basic
import Loadout.Pattern.CharSet
import Loadout.Pattern.Compiled
import Loadout.Pattern.Reader
import Loadout.Proofs.Build.Json
import Loadout.Proofs.Build.Partial
import Loadout.Proofs.Build.Worn
import Loadout.Proofs.Character.Lower
import Loadout.Proofs.Character.Upper
import Loadout.Proofs.Damage.Cap
import Loadout.Proofs.Damage.Inheritance
import Loadout.Proofs.Damage.Ledger
import Loadout.Proofs.Damage.Linear
import Loadout.Proofs.Damage.Lines
import Loadout.Proofs.Damage.Normal
import Loadout.Proofs.Damage.Turns
import Loadout.Proofs.Damage.Upstream
import Loadout.Proofs.Document.Decoders
import Loadout.Proofs.Document.Entries
import Loadout.Proofs.Document.Flags
import Loadout.Proofs.Document.Lists
import Loadout.Proofs.Document.Omission
import Loadout.Proofs.Document.Writing
import Loadout.Proofs.Environment.Attributes
import Loadout.Proofs.Environment.Comparison
import Loadout.Proofs.Environment.Conversion
import Loadout.Proofs.Environment.Difference
import Loadout.Proofs.Environment.Inactive
import Loadout.Proofs.Environment.KnownLine
import Loadout.Proofs.Environment.Provenance
import Loadout.Proofs.Environment.Rebuild
import Loadout.Proofs.Environment.Record
import Loadout.Proofs.Environment.Reflection
import Loadout.Proofs.Environment.Renewal
import Loadout.Proofs.Environment.Unknown
import Loadout.Proofs.Line.Blocks
import Loadout.Proofs.Line.Boundaries
import Loadout.Proofs.Line.Builtin
import Loadout.Proofs.Line.Captures
import Loadout.Proofs.Line.Classification
import Loadout.Proofs.Line.Conversions
import Loadout.Proofs.Line.Cuts
import Loadout.Proofs.Line.Effects
import Loadout.Proofs.Line.Exhaustion
import Loadout.Proofs.Line.Faults
import Loadout.Proofs.Line.Leftover
import Loadout.Proofs.Line.Loading
import Loadout.Proofs.Line.Lookup
import Loadout.Proofs.Line.Memory
import Loadout.Proofs.Line.Numeral
import Loadout.Proofs.Line.Placeholders
import Loadout.Proofs.Line.Ranges
import Loadout.Proofs.Line.Readings
import Loadout.Proofs.Modifier.Json
import Loadout.Proofs.Modifier.RoundTrip
import Loadout.Proofs.Number.Ascii
import Loadout.Proofs.Number.Digits
import Loadout.Proofs.Number.Likeness
import Loadout.Proofs.Number.Rational
import Loadout.Proofs.Number.Sign
import Loadout.Proofs.Pattern.Forced
import Loadout.Proofs.Pattern.Leads
import Loadout.Proofs.Pattern.Names
import Loadout.Proofs.Pattern.Openings
import Loadout.Proofs.Pattern.Spans
import Loadout.Proofs.Pattern.Written
import Loadout.Proofs.Resolution.Activations
import Loadout.Proofs.Resolution.Bookkeeping
import Loadout.Proofs.Resolution.Calls
import Loadout.Proofs.Resolution.Chains
import Loadout.Proofs.Resolution.Contributions
import Loadout.Proofs.Resolution.Declared
import Loadout.Proofs.Resolution.Explanations
import Loadout.Proofs.Resolution.Forgetting
import Loadout.Proofs.Resolution.Ground
import Loadout.Proofs.Resolution.Independent
import Loadout.Proofs.Resolution.Order
import Loadout.Proofs.Resolution.Queries
import Loadout.Proofs.Resolution.Requests
import Loadout.Proofs.Resolution.Steady
import Loadout.Proofs.Resolution.Termination
import Loadout.Proofs.Resolution.Traces
import Loadout.Proofs.Resolution.Unrelated
import Loadout.Proofs.Resolution.Unseen
import Loadout.Proofs.Resolution.Visits
import Loadout.Proofs.Settings.Decisions
import Loadout.Proofs.Settings.Partial
import Loadout.Proofs.Store.Composition
import Loadout.Proofs.Store.Index
import Loadout.Proofs.Store.Scanning
import Loadout.Proofs.Store.Widening
import Loadout.Proofs.Text.Lines
import Loadout.Proofs.Text.Normal
import Loadout.Proofs.Text.Pieces
import Loadout.Proofs.Text.Template
import Loadout.Proofs.Text.Words
import Loadout.Proofs.Tree.Listing
import Loadout.Resolution.Breakdown
import Loadout.Resolution.Resolver
import Loadout.Settings
import Loadout.Store
import Loadout.Text.Case
import Loadout.Text.Normal
import Loadout.Text.Pieces
import Loadout.Text.Quoted
import Loadout.Text.Template
import Loadout.Tree
