import Formulary.Main
import Formulary.Proofs.Document.Paths
import Formulary.Proofs.Text.Order
import Formulary.Proofs.Document.Checks
import Formulary.Proofs.Document.Grammar
import Formulary.Proofs.Document.FirstViolation
import Formulary.Proofs.Document.Reporting
import Formulary.Proofs.Document.Reordering
import Formulary.Proofs.Evaluation.Formula
import Formulary.Proofs.Evaluation.Schedule
import Formulary.Proofs.Evaluation.Safety
import Formulary.Proofs.Evaluation.Acceptance
import Formulary.Proofs.Number.Comparison
import Formulary.Proofs.Number.Digits
import Formulary.Proofs.Json.Members
import Formulary.Proofs.Json.Written
import Formulary.Proofs.Json.RoundTrip
import Formulary.Proofs.Json.Reordering
import Formulary.Proofs.Store.Scan
import Formulary.Proofs.Evaluation.Answer
import Formulary.Proofs.Evaluation.Context
import Formulary.Proofs.Evaluation.ShortCircuit
import Formulary.Proofs.Store.Growth
import Formulary.Proofs.Evaluation.Stability
import Formulary.Proofs.Json.Line
import Formulary.Proofs.CommandLine.Printing
import Formulary.Proofs.Json.Constants
import Formulary.Proofs.Json.Strictness
import Formulary.Proofs.Number.Rounding
import Formulary.Proofs.Number.Shortest
import Formulary.Proofs.Json.NumberToken
import Formulary.Proofs.Json.FloatLiteral
import Formulary.Proofs.Json.LineRoundTrip
import Formulary.Proofs.CommandLine.StrictOutput
import Formulary.Proofs.Store.Columns
import Formulary.Proofs.Store.SchemaOrder
import Formulary.Proofs.Store.Loading
import Formulary.Proofs.CommandLine.StoreChoice
import Formulary.Proofs.Document.Verdicts
import Formulary.Proofs.Evaluation.Renumbering
import Formulary.Proofs.Json.Opening
import Formulary.Proofs.Json.ShortNumerals
import Formulary.Proofs.Text.Encoding
import Formulary.Proofs.Document.Bytes
import Formulary.Proofs.CommandLine.Precedence
import Formulary.Proofs.Number.Range
import Formulary.Proofs.Evaluation.ZeroDivisor
import Formulary.Proofs.Evaluation.WholeNumbers
import Formulary.Proofs.Store.Contents
import Formulary.Proofs.Number.NormalDecimal
import Formulary.Proofs.Json.ExactNumber
import Formulary.Proofs.Json.BrowserNumber
import Formulary.Proofs.Json.Indentation
import Formulary.Proofs.Number.WholeFloat
import Formulary.Proofs.CommandLine.ResultNumber
import Formulary.Proofs.Settings.LevelNames
import Formulary.Proofs.Settings.Reporting
import Formulary.Proofs.Settings.Meaning
import Formulary.Proofs.Settings.Normalisation
