import Phrasebook.Text.Basic
import Phrasebook.Text.Quoted
import Phrasebook.Text.Identifier
import Phrasebook.Tree.Node
import Phrasebook.Tree.Assembly
import Phrasebook.Message
import Phrasebook.Catalog.Entry
import Phrasebook.Catalog.Draft
import Phrasebook.Catalog.Basic
import Phrasebook.Collector
import Phrasebook.Desk
import Phrasebook.Script.Token
import Phrasebook.Script.Number
import Phrasebook.Script.Scanner
import Phrasebook.Script.Layout
import Phrasebook.Script.Backslash
import Phrasebook.Script.Template
import Phrasebook.Script.Parser
import Phrasebook.Script.Expression
import Phrasebook.Script.Statement
import Phrasebook.File.Folders
import Phrasebook.File.Encoding
import Phrasebook.Report
import Phrasebook.Proofs.Traversal
import Phrasebook.Proofs.Recognition
import Phrasebook.Proofs.EventStream
import Phrasebook.Proofs.CallOrder
import Phrasebook.Proofs.CatalogHistory
import Phrasebook.Proofs.Session
import Phrasebook.Proofs.VisitOutcome
import Phrasebook.Proofs.Interchange
import Phrasebook.Proofs.Folding
import Phrasebook.Proofs.FoldedVisit
import Phrasebook.Proofs.Recording
import Phrasebook.Proofs.Escaping
import Phrasebook.Proofs.Substitution
import Phrasebook.Proofs.Comments
import Phrasebook.Proofs.Growth
import Phrasebook.Proofs.Revisit
import Phrasebook.Proofs.SeedCalls
import Phrasebook.Proofs.WellFormed
import Phrasebook.Proofs.Limits
import Phrasebook.Proofs.Reordering
import Phrasebook.Proofs.Statements
import Phrasebook.Proofs.Relabelling
import Phrasebook.Proofs.Relocation
import Phrasebook.Proofs.Fringe
import Phrasebook.Proofs.Decoding
import Phrasebook.Proofs.Conflation
import Phrasebook.Proofs.MarkerRules
import Phrasebook.Proofs.EncodedText
import Phrasebook.Proofs.FileReport
