import SqlScript.Main
import SqlScript.Proofs.Reading.Lines
import SqlScript.Proofs.Reading.Faults
import SqlScript.Proofs.Reading.Encoding
import SqlScript.Proofs.Reading.LetterCase
import SqlScript.Proofs.Scan.Composition
import SqlScript.Proofs.Scan.Division
import SqlScript.Proofs.Scan.Layout
import SqlScript.Proofs.Scan.Conservation
import SqlScript.Proofs.Scan.Rendering
import SqlScript.Proofs.Scan.Semicolons
import SqlScript.Proofs.Scan.Cursor
import SqlScript.Proofs.Scan.Boundaries
import SqlScript.Proofs.Scan.Joining
import SqlScript.Proofs.Scan.Separators
import SqlScript.Proofs.Scan.LetterCase
import SqlScript.Proofs.Scan.DelimiterSets
import SqlScript.Proofs.Keywords.Registration
import SqlScript.Proofs.Keywords.History
import SqlScript.Proofs.Keywords.Leading
import SqlScript.Proofs.Keywords.Transactions
import SqlScript.Proofs.Query.Isolation
import SqlScript.Proofs.Query.Distinct
import SqlScript.Proofs.Query.Splitting
import SqlScript.Proofs.Query.Aliases
import SqlScript.Proofs.Query.LeadingBlock
import SqlScript.Proofs.Query.LineBreaks
import SqlScript.Proofs.Query.FirstWord
import SqlScript.Proofs.Query.Neighbours
import SqlScript.Proofs.Query.Rejoining
import SqlScript.Proofs.Query.Qualifiers
import SqlScript.Proofs.Query.Formulas
import SqlScript.Proofs.Query.Extent
import SqlScript.Proofs.Query.QuotedText
import SqlScript.Proofs.Query.LetterCase
import SqlScript.Proofs.Settings.Precedence
import SqlScript.Proofs.Settings.Faults
import SqlScript.Proofs.Program.Script
import SqlScript.Proofs.Program.Texts
import SqlScript.Proofs.Program.Strictness
import SqlScript.Proofs.Program.Queries
import SqlScript.Proofs.Program.Endings
import SqlScript.Proofs.CommandLine.Order
import SqlScript.Proofs.Listing.Colours
import SqlScript.Proofs.Listing.Records
