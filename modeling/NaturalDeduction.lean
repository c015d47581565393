import NaturalDeduction.Formula.Parser
import NaturalDeduction.Formula.Semantics
import NaturalDeduction.Main
import NaturalDeduction.Proofs.Grammar
import NaturalDeduction.Proofs.Acceptance
import NaturalDeduction.Proofs.Completeness
import NaturalDeduction.Proofs.Growth
import NaturalDeduction.Proofs.Replay
import NaturalDeduction.Proofs.Orderly
import NaturalDeduction.Proofs.Substitution
import NaturalDeduction.Proofs.Exchange
import NaturalDeduction.Proofs.Shape
import NaturalDeduction.Proofs.JsonText
import NaturalDeduction.Proofs.StoredLines
import NaturalDeduction.Proofs.Descent
import NaturalDeduction.Proofs.Suppositions
import NaturalDeduction.Proofs.FirstMisfit
import NaturalDeduction.Proofs.Conclusion
import NaturalDeduction.Proofs.NestingLimit
import NaturalDeduction.Proofs.FirstRefusal
import NaturalDeduction.Proofs.Loading
import NaturalDeduction.Proofs.Ascending
import NaturalDeduction.Proofs.Halting
