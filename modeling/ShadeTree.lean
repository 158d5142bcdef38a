import ShadeTree.Config.Writer
import ShadeTree.Description.Writer
import ShadeTree.Main
import ShadeTree.Session.Run
import ShadeTree.Proofs.Program.Moments
import ShadeTree.Proofs.Scope.Guard
import ShadeTree.Proofs.Scope.Balance
import ShadeTree.Proofs.Scope.Failure
import ShadeTree.Proofs.Program.Fuel
import ShadeTree.Proofs.Likeness.Basic
import ShadeTree.Proofs.Generation.Derivation
import ShadeTree.Proofs.Generation.Tables
import ShadeTree.Proofs.Generation.Soundness
import ShadeTree.Proofs.Reading.Expression
import ShadeTree.Proofs.Reading.Operand
import ShadeTree.Proofs.Reading.Spelling
import ShadeTree.Proofs.Number.Rounding
import ShadeTree.Proofs.Number.Numeral
import ShadeTree.Proofs.Reading.Numeral
import ShadeTree.Proofs.Reading.Term
import ShadeTree.Proofs.Meaning.Environment
import ShadeTree.Proofs.Config.Accepted
import ShadeTree.Proofs.Meaning.Reference
import ShadeTree.Proofs.Generation.Conversion
import ShadeTree.Proofs.Meaning.Preservation
import ShadeTree.Proofs.Reading.Words
import ShadeTree.Proofs.Declaration.Typing
import ShadeTree.Proofs.Declaration.Closed
import ShadeTree.Proofs.Meaning.Realization
import ShadeTree.Proofs.Declaration.Bindings
import ShadeTree.Proofs.Declaration.Operations
import ShadeTree.Proofs.Declaration.Signature
import ShadeTree.Proofs.Declaration.WellTyped
import ShadeTree.Proofs.Likeness.Run
import ShadeTree.Proofs.Likeness.Generation
import ShadeTree.Proofs.Likeness.Reads
import ShadeTree.Proofs.Likeness.Build
import ShadeTree.Proofs.Likeness.Numbering
import ShadeTree.Proofs.Generation.Termination
import ShadeTree.Proofs.Declaration.Ledger
import ShadeTree.Proofs.Declaration.History
import ShadeTree.Proofs.Generation.Visits
import ShadeTree.Proofs.Generation.Progress
import ShadeTree.Proofs.Json.Numerals
import ShadeTree.Proofs.Json.Strings
import ShadeTree.Proofs.Json.Trees
import ShadeTree.Proofs.Description.RoundTrip
import ShadeTree.Proofs.Config.RoundTrip
import ShadeTree.Proofs.Generation.Repetition
import ShadeTree.Proofs.Generation.Constants
import ShadeTree.Proofs.Likeness.Texts
import ShadeTree.Proofs.Likeness.Matching
import ShadeTree.Proofs.Likeness.Physical
import ShadeTree.Proofs.Number.Nearest
import ShadeTree.Proofs.Number.Literal
import ShadeTree.Proofs.Number.Precision
import ShadeTree.Proofs.Number.Grid
import ShadeTree.Proofs.Number.Strip
import ShadeTree.Proofs.Number.NearMiss
import ShadeTree.Proofs.Number.Reload
import ShadeTree.Proofs.Config.Saving
import ShadeTree.Proofs.Description.Numbering
import ShadeTree.Proofs.Declaration.Sections
import ShadeTree.Proofs.CommandLine.Groups
import ShadeTree.Proofs.CommandLine.Listing
import ShadeTree.Proofs.Scope.Snapshot
import ShadeTree.Proofs.Number.Minimal
