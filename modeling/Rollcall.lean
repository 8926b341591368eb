import Rollcall.Text.Blank
import Rollcall.Text.Search
import Rollcall.TypeName
import Rollcall.Text.Utf8
import Rollcall.Text.Numeral
import Rollcall.Text.Printable
import Rollcall.Syntax.Node
import Rollcall.Syntax.Literal
import Rollcall.Syntax.Directive
import Rollcall.Syntax.Attribute
import Rollcall.Generated
import Rollcall.Declaration
import Rollcall.Program.Binding
import Rollcall.Analysis
import Rollcall.Loading
import Rollcall.Session
import Rollcall.Syntax.Reader
import Rollcall.Datum.Document
import Rollcall.Interchange
import Rollcall.Settings
import Rollcall.Execution
import Rollcall.Standard
import Rollcall.Main
import Rollcall.Proofs.Lists
import Rollcall.Proofs.Programs
import Rollcall.Proofs.Binding
import Rollcall.Proofs.Runs
import Rollcall.Proofs.Analyses
import Rollcall.Proofs.Loading
import Rollcall.Proofs.Scopes
import Rollcall.Proofs.Places
import Rollcall.Proofs.Collecting
import Rollcall.Proofs.Sessions
import Rollcall.Proofs.Ancestry
import Rollcall.Proofs.Trees
import Rollcall.Proofs.Sources
import Rollcall.Proofs.Projects
import Rollcall.Proofs.Globals
import Rollcall.Proofs.Histories
import Rollcall.Proofs.Namespaces
import Rollcall.Proofs.Graphs
import Rollcall.Proofs.Lookups
import Rollcall.Proofs.Orders
import Rollcall.Proofs.Operands
import Rollcall.Proofs.Ambiguity
import Rollcall.Proofs.Registries
import Rollcall.Proofs.Brackets
import Rollcall.Proofs.Spellings
import Rollcall.Proofs.Uses
import Rollcall.Proofs.Registrations
import Rollcall.Proofs.AttributeNames
import Rollcall.Proofs.Comments
import Rollcall.Proofs.Encoding
import Rollcall.Proofs.Letters
import Rollcall.Proofs.Headers
import Rollcall.Proofs.Discovery
import Rollcall.Proofs.Numerals
import Rollcall.Proofs.Keys
import Rollcall.Proofs.Layouts
import Rollcall.Proofs.Failures
import Rollcall.Proofs.Jobs
import Rollcall.Proofs.ExitCodes
import Rollcall.Proofs.Tables
