import GoldenCheck.Main
import GoldenCheck.Proofs.Comment.Find
import GoldenCheck.Proofs.Fixture.RoundTrip
import GoldenCheck.Proofs.Fixture.Lines
import GoldenCheck.Proofs.Mismatch
import GoldenCheck.Proofs.Comment.Rules
import GoldenCheck.Proofs.Lint.Acceptance
import GoldenCheck.Proofs.LineEndings
import GoldenCheck.Proofs.Text.Utf8
import GoldenCheck.Proofs.Disk.Access
import GoldenCheck.Proofs.Program.Compare
import GoldenCheck.Proofs.Program.Check
import GoldenCheck.Proofs.Pairing
import GoldenCheck.Proofs.Fixture.Header
import GoldenCheck.Proofs.Fixture.Comments
import GoldenCheck.Proofs.Comment.Canonical
import GoldenCheck.Proofs.Comment.Opening
import GoldenCheck.Proofs.Lint.Repair
import GoldenCheck.Proofs.Program.Footprint
import GoldenCheck.Proofs.Disk.Tree
import GoldenCheck.Proofs.Glob.Literal
import GoldenCheck.Proofs.Selection
import GoldenCheck.Proofs.Program.ExpectedFolder
import GoldenCheck.Proofs.Lint.Lines
import GoldenCheck.Proofs.Lint.Endings
import GoldenCheck.Proofs.Lint.Strictness
import GoldenCheck.Proofs.Comment.Duplicates
import GoldenCheck.Proofs.Comment.Surroundings
import GoldenCheck.Proofs.Lint.RuleList
import GoldenCheck.Proofs.Lint.RuleOrder
import GoldenCheck.Proofs.Lint.Header
import GoldenCheck.Proofs.Selection.Patterns
import GoldenCheck.Proofs.Settings.Search
import GoldenCheck.Proofs.Comment.Entries
import GoldenCheck.Proofs.Lint.Messages
import GoldenCheck.Proofs.Problem.Tally
import GoldenCheck.Proofs.Program.Report
import GoldenCheck.Proofs.Text.ByteOrder
import GoldenCheck.Proofs.Text.Numeral
