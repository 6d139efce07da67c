import Recalc.Main
import Recalc.Service.Api
import Recalc.Proofs.Binary64.Bits
import Recalc.Proofs.Binary64.Nearest
import Recalc.Proofs.Decimal.Numeral
import Recalc.Proofs.Arithmetic.Parse
import Recalc.Proofs.Formula.Delimiter
import Recalc.Proofs.Formula.Spelling
import Recalc.Proofs.Reference.Written
import Recalc.Proofs.Formula.Calls
import Recalc.Proofs.Formula.Operand
import Recalc.Proofs.Formula.Phases
import Recalc.Proofs.Formula.Figures
import Recalc.Proofs.Formula.Pipeline
import Recalc.Proofs.Coordinate.Label
import Recalc.Proofs.Calculation.Run
import Recalc.Proofs.Calculation.Write
import Recalc.Proofs.Calculation.Finished
import Recalc.Proofs.Calculation.Solution
import Recalc.Proofs.Calculation.Cycle
import Recalc.Proofs.Formula.Covered
import Recalc.Proofs.Workbook.Sound
import Recalc.Proofs.Workbook.Calculate
import Recalc.Proofs.Workbook.LeastSolution
import Recalc.Proofs.Calculation.Restrict
import Recalc.Proofs.Workbook.Locality
import Recalc.Proofs.Workbook.FixedPoint
import Recalc.Proofs.Arithmetic.Grammar
import Recalc.Proofs.Workbook.Passes
import Recalc.Proofs.Workbook.Complete
import Recalc.Proofs.Reference.Boundary
import Recalc.Proofs.Formula.Dependencies
import Recalc.Proofs.Text.Order
import Recalc.Proofs.Workbook.Forward
import Recalc.Proofs.Workbook.Shape
import Recalc.Proofs.Workbook.Overrides
import Recalc.Proofs.Workbook.BareKeys
import Recalc.Proofs.Workbook.Locate
import Recalc.Proofs.Reference.Whole
import Recalc.Proofs.Workbook.Referenced
import Recalc.Proofs.Workbook.Loaded
import Recalc.Proofs.Workbook.Reachable
import Recalc.Proofs.Workbook.ReadingOrder
import Recalc.Proofs.Reference.Spans
import Recalc.Proofs.Text.Parens
import Recalc.Proofs.Formula.Brackets
import Recalc.Proofs.Arithmetic.Faults
import Recalc.Proofs.Coordinate.Rectangle
import Recalc.Proofs.Formula.Tokens
import Recalc.Proofs.Reference.Case
import Recalc.Proofs.Formula.Case
import Recalc.Proofs.Coordinate.Correspondence
import Recalc.Proofs.Text.Distinct
import Recalc.Proofs.Results.Differing
import Recalc.Proofs.Results.Grouped
import Recalc.Proofs.Inputs.Precedence
import Recalc.Proofs.Reference.Slices
import Recalc.Proofs.Formula.Splice
