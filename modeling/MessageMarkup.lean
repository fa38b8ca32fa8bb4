import MessageMarkup.Decimal.Binary
import MessageMarkup.Decimal.Notation
import MessageMarkup.Decimal.Shortest
import MessageMarkup.Diagnostic
import MessageMarkup.Diagnostic.Catalog
import MessageMarkup.Diagnostic.Layout
import MessageMarkup.Failure
import MessageMarkup.Formatter
import MessageMarkup.Locale
import MessageMarkup.Mark
import MessageMarkup.Names
import MessageMarkup.Nesting
import MessageMarkup.Node
import MessageMarkup.Parser
import MessageMarkup.Parser.State
import MessageMarkup.Plural.Classifier
import MessageMarkup.Plural.Condition
import MessageMarkup.Plural.Family
import MessageMarkup.Plural.Forms
import MessageMarkup.Plural.Rule
import MessageMarkup.Plural.Selection
import MessageMarkup.Plural.Standard
import MessageMarkup.Printer
import MessageMarkup.Proofs.AbsentValues
import MessageMarkup.Proofs.Acceptance
import MessageMarkup.Proofs.Blame
import MessageMarkup.Proofs.Buffers
import MessageMarkup.Proofs.ChosenForms
import MessageMarkup.Proofs.Comparison
import MessageMarkup.Proofs.Concatenation
import MessageMarkup.Proofs.Demand
import MessageMarkup.Proofs.Equivalence
import MessageMarkup.Proofs.FlatStack
import MessageMarkup.Proofs.Forest
import MessageMarkup.Proofs.FormChoice
import MessageMarkup.Proofs.Formatting
import MessageMarkup.Proofs.Introspection
import MessageMarkup.Proofs.JoinedForms
import MessageMarkup.Proofs.JsonReading
import MessageMarkup.Proofs.JsonRecords
import MessageMarkup.Proofs.LargerLimit
import MessageMarkup.Proofs.Levels
import MessageMarkup.Proofs.Likeness
import MessageMarkup.Proofs.LocaleLookup
import MessageMarkup.Proofs.Markup
import MessageMarkup.Proofs.MarkupValues
import MessageMarkup.Proofs.NestingLimit
import MessageMarkup.Proofs.Outcome
import MessageMarkup.Proofs.Parsed
import MessageMarkup.Proofs.PluralForms
import MessageMarkup.Proofs.Problems
import MessageMarkup.Proofs.Quotation
import MessageMarkup.Proofs.Reading
import MessageMarkup.Proofs.Replacement
import MessageMarkup.Proofs.Reporting
import MessageMarkup.Proofs.RoundTrip
import MessageMarkup.Proofs.SecondReading
import MessageMarkup.Proofs.Shape
import MessageMarkup.Proofs.SingleLines
import MessageMarkup.Proofs.Spelling
import MessageMarkup.Proofs.StackInvariant
import MessageMarkup.Proofs.TagLabels
import MessageMarkup.Proofs.Token
import MessageMarkup.Proofs.Unescape
import MessageMarkup.Proofs.UnescapedReading
import MessageMarkup.Proofs.ValueLayers
import MessageMarkup.Proofs.Verdict
import MessageMarkup.Proofs.Writing
import MessageMarkup.Quantity
import MessageMarkup.Report
import MessageMarkup.Table
import MessageMarkup.Text.Blank
import MessageMarkup.Text.CodePoints
import MessageMarkup.Text.JsonString
import MessageMarkup.Text.LetterCase
import MessageMarkup.Text.LowerCase
import MessageMarkup.Text.Printable
import MessageMarkup.Text.Quoted
import MessageMarkup.Translator
import MessageMarkup.Validation.Structure
import MessageMarkup.Validation.Translation
import MessageMarkup.Value
