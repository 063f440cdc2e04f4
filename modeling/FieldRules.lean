import FieldRules.Compiler.Factory
import FieldRules.Data.Reader
import FieldRules.Proofs.Compiler.Agreement
import FieldRules.Proofs.Compiler.Cache
import FieldRules.Proofs.Compiler.Codecs
import FieldRules.Proofs.Compiler.Completion
import FieldRules.Proofs.Compiler.Defaults
import FieldRules.Proofs.Compiler.Elimination
import FieldRules.Proofs.Compiler.Inline
import FieldRules.Proofs.Compiler.Integers
import FieldRules.Proofs.Compiler.Source
import FieldRules.Proofs.Compiler.Presence
import FieldRules.Proofs.Compiler.RoundTrip
import FieldRules.Proofs.Rule.Derivation
import FieldRules.Proofs.Rule.Order
import FieldRules.Proofs.Rule.Viability
import FieldRules.Proofs.Validator.Reporting
import FieldRules.Proofs.Decimal.Value
import FieldRules.Proofs.Rule.Values
import FieldRules.Proofs.Text.Denotation
import FieldRules.Proofs.Validator.Integers
import FieldRules.Proofs.Validator.Multiples
import FieldRules.Proofs.Rule.SourceText
import FieldRules.Proofs.Rule.Spacing
import FieldRules.Proofs.Schema.TagGrammar
import FieldRules.Proofs.Compiler.Texts
import FieldRules.Proofs.Format.Colors
import FieldRules.Proofs.Format.Url
import FieldRules.Proofs.Value.Documents
import FieldRules.Proofs.Format.Hostname
import FieldRules.Proofs.Text.Quoted
import FieldRules.Proofs.Compiler.Keys
import FieldRules.Proofs.Validator.Words
