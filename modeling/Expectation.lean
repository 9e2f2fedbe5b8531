import Expectation.Main
import Expectation.Proofs.Json.Agreement
import Expectation.Proofs.Html.Admission
import Expectation.Proofs.Json.SelfAgreement
import Expectation.Proofs.Json.Carrying
import Expectation.Proofs.Json.Updating
import Expectation.Proofs.Pairing
import Expectation.Proofs.Pairing.Matching
import Expectation.Proofs.Placeholder.Absent
import Expectation.Proofs.Text.Encoding
import Expectation.Proofs.Json.Succession
import Expectation.Proofs.AnyOrder
import Expectation.Proofs.Json.Likeness
import Expectation.Proofs.Html.SelfAdmission
import Expectation.Proofs.SelfCheck
import Expectation.Proofs.Html.Likeness
import Expectation.Proofs.Command.Writing
import Expectation.Proofs.Command.Modes
import Expectation.Proofs.Command.Sources
import Expectation.Proofs.Json.Numerals
import Expectation.Proofs.Json.Creating
import Expectation.Proofs.Text.Words
import Expectation.Proofs.Html.Rewriting
import Expectation.Proofs.Html.Escaping
import Expectation.Proofs.Html.Markup
import Expectation.Proofs.Html.Cells
import Expectation.Proofs.Html.Attributes
import Expectation.Proofs.Html.Surroundings
import Expectation.Proofs.Html.Building
import Expectation.Proofs.Html.BodyRules
import Expectation.Proofs.Html.Closings
import Expectation.Proofs.Html.TableRules
import Expectation.Proofs.Html.Elements
import Expectation.Proofs.Html.Layout
import Expectation.Proofs.Html.Flow
import Expectation.Proofs.Html.Contents
import Expectation.Proofs.Html.Settled
import Expectation.Proofs.Html.Pages
import Expectation.Proofs.Rereading
import Expectation.Proofs.Html.Stripping
import Expectation.Proofs.Json.Reported
import Expectation.Proofs.Sides
import Expectation.Proofs.Json.Shown
import Expectation.Proofs.Json.Mirroring
import Expectation.Proofs.Json.LeftOut
import Expectation.Proofs.Placeholder.Marking
import Expectation.Proofs.Html.Names
import Expectation.Proofs.Html.NameRules
import Expectation.Proofs.Html.NameModes
import Expectation.Proofs.Placeholder.Hiding
import Expectation.Proofs.Html.Leftovers
import Expectation.Proofs.LineDiff
import Expectation.Proofs.LineDiff.Shortest
import Expectation.Proofs.Json.Visible
import Expectation.Proofs.Matcher.Backticks
import Expectation.Proofs.Matcher.EscapedMarks
import Expectation.Proofs.Json.Direct
import Expectation.Proofs.Placeholder.Restoring
import Expectation.Proofs.Json.Quoting
import Expectation.Proofs.Json.Partial
import Expectation.Proofs.Refusal
import Expectation.Proofs.Template
import Expectation.Proofs.Json.Pruning
import Expectation.Proofs.Json.Masking
import Expectation.Proofs.Json.Naming
import Expectation.Proofs.Matcher.Telling
import Expectation.Proofs.Json.Equality
import Expectation.Proofs.Html.Collapsing
import Expectation.Proofs.Json.Addressing
import Expectation.Proofs.Json.Positions
import Expectation.Proofs.Html.Placing
