import Highlight.Main
import Highlight.Proofs.LengthUnit
import Highlight.Proofs.Scan.Course
import Highlight.Proofs.Scan.Cover
import Highlight.Proofs.Regex.Run
import Highlight.Proofs.Regex.Situation
import Highlight.Proofs.Regex.Search
import Highlight.Proofs.Scan.Partition
import Highlight.Proofs.Pattern
import Highlight.Proofs.Registry.Memo
import Highlight.Proofs.Scan.Segmentation
import Highlight.Proofs.Regex.Numbering
import Highlight.Proofs.Regex.Resolution
import Highlight.Proofs.Regex.Capture
import Highlight.Proofs.Regex.Alternatives
import Highlight.Proofs.Priority
import Highlight.Proofs.Scan.Progress
import Highlight.Proofs.Registry.Bindings
import Highlight.Proofs.Registry.History
import Highlight.Proofs.Registry.Names
import Highlight.Proofs.Registry.Slots
import Highlight.Proofs.Registry.Provenance
import Highlight.Proofs.Registry.Sharing
import Highlight.Proofs.Ownership
import Highlight.Proofs.Json.Reader
import Highlight.Proofs.Json.String
import Highlight.Proofs.Json.Number
import Highlight.Proofs.Json.Layout
import Highlight.Proofs.Json.Record
import Highlight.Proofs.Json.Yields
import Highlight.Proofs.Span.RoundTrip
import Highlight.Proofs.CommandLine
import Highlight.Proofs.Language
import Highlight.Proofs.Span.Slices
import Highlight.Proofs.Scan.Merging
import Highlight.Proofs.Compilation
import Highlight.Proofs.Definition
import Highlight.Proofs.LengthUnit.Offset
import Highlight.Proofs.Registry.Frame
import Highlight.Proofs.Registry.Independence
import Highlight.Proofs.Scan.Unstyled
import Highlight.Proofs.Unicode.Lowercase
import Highlight.Proofs.Registry.FileTypes
import Highlight.Proofs.Json.Symbol
import Highlight.Proofs.Json.Faults
import Highlight.Proofs.Definition.Sources
import Highlight.Proofs.Scan.Styles
import Highlight.Proofs.Text.Quoted
import Highlight.Proofs.CommandLine.Lines
import Highlight.Proofs.GroupName
import Highlight.Proofs.Registry.Representation
