import Outliner.Calendar.Date
import Outliner.Calendar.DayRef
import Outliner.Calendar.Instant
import Outliner.Calendar.Reading
import Outliner.Calendar.Zone
import Outliner.Document.Basic
import Outliner.Document.Edit
import Outliner.Document.Links
import Outliner.Document.Lookup
import Outliner.Document.Node
import Outliner.Document.NodeId
import Outliner.Document.Saved
import Outliner.Document.Tree
import Outliner.Except
import Outliner.Failure
import Outliner.Json.Read
import Outliner.Json.Value
import Outliner.Json.Write
import Outliner.Numeral.Binary64
import Outliner.Numeral.Decimal
import Outliner.Numeral.Hexadecimal
import Outliner.Procedure
import Outliner.Proofs.Calendar.CivilDays
import Outliner.Proofs.Calendar.DaySpans
import Outliner.Proofs.Calendar.LocalDay
import Outliner.Proofs.Calendar.WallTimes
import Outliner.Proofs.Calendar.WrittenDays
import Outliner.Proofs.Calendar.WrittenInstants
import Outliner.Proofs.Document.Alike
import Outliner.Proofs.Document.Bare
import Outliner.Proofs.Document.Blocks
import Outliner.Proofs.Document.Forest
import Outliner.Proofs.Document.Freeing
import Outliner.Proofs.Document.IdentifierIndex
import Outliner.Proofs.Document.Identity
import Outliner.Proofs.Document.InPlace
import Outliner.Proofs.Document.Lifetimes
import Outliner.Proofs.Document.Owners
import Outliner.Proofs.Document.Ownership
import Outliner.Proofs.Document.Preorder
import Outliner.Proofs.Document.SavedNodes
import Outliner.Proofs.Document.StackWalk
import Outliner.Proofs.Document.WayUp
import Outliner.Proofs.History
import Outliner.Proofs.Json.ReadBack
import Outliner.Proofs.Links.Closed
import Outliner.Proofs.Links.Flipping
import Outliner.Proofs.Links.Populated
import Outliner.Proofs.Links.Referred
import Outliner.Proofs.Links.Relink
import Outliner.Proofs.Links.Resolved
import Outliner.Proofs.Links.Resolving
import Outliner.Proofs.Links.Untangled
import Outliner.Proofs.Links.Visit
import Outliner.Proofs.Links.Weak
import Outliner.Proofs.Query.Alone
import Outliner.Proofs.Query.Arguments
import Outliner.Proofs.Query.Completeness
import Outliner.Proofs.Query.Composing
import Outliner.Proofs.Query.CountedParse
import Outliner.Proofs.Query.Covering
import Outliner.Proofs.Query.DayForms
import Outliner.Proofs.Query.DayOrder
import Outliner.Proofs.Query.DayTests
import Outliner.Proofs.Query.Depth
import Outliner.Proofs.Query.ErrorPlaces
import Outliner.Proofs.Query.FilterTokens
import Outliner.Proofs.Query.Grammar
import Outliner.Proofs.Query.GroupScan
import Outliner.Proofs.Query.LetterCase
import Outliner.Proofs.Query.LikeTokens
import Outliner.Proofs.Query.Moving
import Outliner.Proofs.Query.NormalForm
import Outliner.Proofs.Query.Openings
import Outliner.Proofs.Query.Operands
import Outliner.Proofs.Query.Outcomes
import Outliner.Proofs.Query.Places
import Outliner.Proofs.Query.QuotedTokens
import Outliner.Proofs.Query.Quoting
import Outliner.Proofs.Query.Reading
import Outliner.Proofs.Query.Rescanning
import Outliner.Proofs.Query.Safety
import Outliner.Proofs.Query.Shifting
import Outliner.Proofs.Query.ShownLeaves
import Outliner.Proofs.Query.SingleFilter
import Outliner.Proofs.Query.SingleTerm
import Outliner.Proofs.Query.SlicedScan
import Outliner.Proofs.Query.Terms
import Outliner.Proofs.Query.Wrapping
import Outliner.Proofs.Search.Above
import Outliner.Proofs.Search.DateValues
import Outliner.Proofs.Search.Forgetting
import Outliner.Proofs.Search.Inequality
import Outliner.Proofs.Search.LinkCount
import Outliner.Proofs.Search.Marking
import Outliner.Proofs.Search.Matching
import Outliner.Proofs.Search.Refreshing
import Outliner.Proofs.Search.Scanning
import Outliner.Proofs.Search.Substrings
import Outliner.Proofs.Search.Undisturbed
import Outliner.Proofs.Store.FreeChain
import Outliner.Proofs.Store.SlotTable
import Outliner.Proofs.Text.Collected
import Outliner.Proofs.Text.Lowering
import Outliner.Proofs.Text.SmallLetters
import Outliner.Query.Comparison
import Outliner.Query.CompiledQuery
import Outliner.Query.DayTest
import Outliner.Query.Expr
import Outliner.Query.Expr.MarkedTerms
import Outliner.Query.Expr.Parse
import Outliner.Query.Expr.Write
import Outliner.Query.Fault
import Outliner.Query.Token
import Outliner.Query.Token.Scan
import Outliner.Search.Match
import Outliner.Search.Refresh
import Outliner.Search.Settings
import Outliner.Search.SettingsFile
import Outliner.Store.Arena
import Outliner.Store.Slot
import Outliner.Text.Ascending
import Outliner.Text.Blank
import Outliner.Text.CaseTable
import Outliner.Text.Display
import Outliner.Text.Lowercase
import Outliner.Text.Occurrence
import Outliner.Text.PrintTable
