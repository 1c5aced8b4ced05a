import Winnow.Query.Envelope
import Winnow.Value.Row
import Winnow.Derive.Model
import Winnow.Derive.Enum
import Winnow.Proofs.Conformance
import Winnow.Proofs.Compilation
import Winnow.Proofs.Construction
import Winnow.Proofs.Evaluation
import Winnow.Proofs.Meaning
import Winnow.Proofs.BracketedPath
import Winnow.Proofs.LeftFold
import Winnow.Proofs.Quantifier
import Winnow.Proofs.WellKinded
import Winnow.Proofs.KindSafety
import Winnow.Proofs.WellTyped
import Winnow.Proofs.Selection
import Winnow.Proofs.NumberOrder
import Winnow.Proofs.TypeOrder
import Winnow.Proofs.EnumOrder
import Winnow.Proofs.Building
import Winnow.Proofs.Agreement
import Winnow.Proofs.Complement
import Winnow.Proofs.MemberConstants
import Winnow.Proofs.RequestBinding
import Winnow.Proofs.Nullability
import Winnow.Proofs.FlagMembership
import Winnow.Proofs.Normalization
import Winnow.Proofs.CaseAndPadding
import Winnow.Proofs.NormalizationScope
import Winnow.Proofs.Acceptance
import Winnow.Proofs.Decomposition
import Winnow.Proofs.Resorting
import Winnow.Proofs.PathGrammar
import Winnow.Proofs.SortKeyPath
import Winnow.Proofs.SplitAttributes
import Winnow.Proofs.ConstantNames
import Winnow.Proofs.MirroredComparison
import Winnow.Proofs.Scoping
import Winnow.Proofs.SnakeCase
