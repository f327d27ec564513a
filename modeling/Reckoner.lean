import Reckoner.Main
import Reckoner.Session
import Reckoner.Evaluation.Lemmas
import Reckoner.Proofs.Sequencing
import Reckoner.Proofs.Decimal.PlainNumeral
import Reckoner.Proofs.Decimal.Range
import Reckoner.Proofs.Decimal.Digits
import Reckoner.Proofs.Decimal.ReadBack
import Reckoner.Proofs.Decimal.Exact
import Reckoner.Proofs.Decimal.Nearest
import Reckoner.Proofs.Binary64.Integer
import Reckoner.Proofs.Binary64.Remainder
import Reckoner.Proofs.Text.Words
import Reckoner.Proofs.Text.Occurrences
import Reckoner.Proofs.Token.Identifier
import Reckoner.Proofs.Token.Mention
import Reckoner.Proofs.Token.Numeral
import Reckoner.Proofs.Token.NumeralShape
import Reckoner.Proofs.Token.Classes
import Reckoner.Proofs.Token.Rebuilding
import Reckoner.Proofs.Table.Views
import Reckoner.Proofs.Grammar.Tree
import Reckoner.Proofs.Grammar.Unambiguity
import Reckoner.Proofs.Grammar.Adjacency
import Reckoner.Proofs.Reduction.Chain
import Reckoner.Proofs.Reduction.Defect
import Reckoner.Proofs.Reduction.Divisors
import Reckoner.Proofs.Reduction.Outcome
import Reckoner.Proofs.Reduction.Grouping
import Reckoner.Proofs.Reduction.Derivation
import Reckoner.Proofs.Parentheses.Replacement
import Reckoner.Proofs.Parentheses.Partners
import Reckoner.Proofs.Parentheses.Outline
import Reckoner.Proofs.Parentheses.Mismatch
import Reckoner.Proofs.Parentheses.Places
import Reckoner.Proofs.Evaluation.Resolution
import Reckoner.Proofs.Evaluation.Interleaving
import Reckoner.Proofs.Evaluation.Failure
import Reckoner.Proofs.Evaluation.Effect
import Reckoner.Proofs.Evaluation.Locality
import Reckoner.Proofs.Evaluation.Order
import Reckoner.Proofs.Evaluation.Columns
import Reckoner.Proofs.Assignment.Form
import Reckoner.Proofs.Assignment.Cascade
import Reckoner.Proofs.Assignment.Nesting
import Reckoner.Proofs.Assignment.Separation
import Reckoner.Proofs.Assignment.Growth
import Reckoner.Proofs.Assignment.Compound
import Reckoner.Proofs.Assignment.Completion
import Reckoner.Proofs.Assignment.ErrorColumns
import Reckoner.Proofs.Evaluation.Journal
import Reckoner.Proofs.Checked.Basic
import Reckoner.Proofs.Checked.Reduction
import Reckoner.Proofs.Checked.Grouping
import Reckoner.Proofs.Checked.Evaluation
import Reckoner.Proofs.Session.Names
import Reckoner.Proofs.Report.ValueText
import Reckoner.Proofs.Report.FixedText
import Reckoner.Proofs.Report.Pieces
import Reckoner.Proofs.Report.RoundTrip
import Reckoner.Proofs.Report.CsvRecords
import Reckoner.Proofs.Report.Transcript
import Reckoner.Proofs.Report.Agreement
import Reckoner.Proofs.Session.History
import Reckoner.Proofs.Session.Integers
import Reckoner.Proofs.Script.Endings
import Reckoner.Proofs.CommandLine.Path
import Reckoner.Proofs.CommandLine.FileTree
import Reckoner.Proofs.CommandLine.Run
import Reckoner.Proofs.CommandLine.Overwriting
