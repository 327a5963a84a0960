import ChartLint.Main
import ChartLint.Proofs.AssignmentParts
import ChartLint.Proofs.BlockOwnership
import ChartLint.Proofs.BracketDepth
import ChartLint.Proofs.CallNesting
import ChartLint.Proofs.CanonicalFindings
import ChartLint.Proofs.ChosenRules
import ChartLint.Proofs.ConstantTargets
import ChartLint.Proofs.Continuation
import ChartLint.Proofs.CountAgreement
import ChartLint.Proofs.CouplingReport
import ChartLint.Proofs.DirectiveReading
import ChartLint.Proofs.FileCollection
import ChartLint.Proofs.FileRanking
import ChartLint.Proofs.FindingGroups
import ChartLint.Proofs.FindingPlaces
import ChartLint.Proofs.ForwardUse
import ChartLint.Proofs.IdentifierRoles
import ChartLint.Proofs.InBounds
import ChartLint.Proofs.IndentationRepair
import ChartLint.Proofs.InertLines
import ChartLint.Proofs.LabelReachability
import ChartLint.Proofs.LineEnds
import ChartLint.Proofs.LineLocality
import ChartLint.Proofs.LiteralReports
import ChartLint.Proofs.LocalNames
import ChartLint.Proofs.LogGrowth
import ChartLint.Proofs.MixingOrigin
import ChartLint.Proofs.OutputReachability
import ChartLint.Proofs.Respacing
import ChartLint.Proofs.RuleSelection
import ChartLint.Proofs.StatementPartition
import ChartLint.Proofs.StringContents
import ChartLint.Proofs.SuppressionComment
