import ReqConflict.Main
import ReqConflict.Proofs.Outcome
import ReqConflict.Proofs.Requests
import ReqConflict.Proofs.BuiltinRules.Judgement
import ReqConflict.Proofs.BuiltinRules.Exclusion
import ReqConflict.Proofs.BuiltinRules.Members
import ReqConflict.Proofs.BuiltinRules.Triggers
import ReqConflict.Proofs.BuiltinRules.Covering
import ReqConflict.Proofs.Interlock.Completeness
import ReqConflict.Proofs.Tuple.RoundTrip
import ReqConflict.Proofs.Expr.Requests
import ReqConflict.Proofs.Rule.Requests
import ReqConflict.Proofs.RuleSet.Compiled
import ReqConflict.Proofs.RuleSet.Nesting
import ReqConflict.Proofs.RuleSet.Insertion
import ReqConflict.Proofs.Detection.Scan
import ReqConflict.Proofs.Detection.Failure
import ReqConflict.Proofs.Detection.Findings
import ReqConflict.Proofs.Detection.Order
import ReqConflict.Proofs.Detection.Siblings
import ReqConflict.Proofs.Detection.Exact
import ReqConflict.Proofs.Expr.RoundTrip
import ReqConflict.Proofs.Expr.Calls
import ReqConflict.Proofs.Expr.Nameless
import ReqConflict.Proofs.Pool.Session
import ReqConflict.Proofs.Model.RoundTrip
import ReqConflict.Proofs.Model.FixedPoint
import ReqConflict.Proofs.RuleSet.EntitySets
import ReqConflict.Proofs.Rule.Swap
import ReqConflict.Proofs.Rule.Spelling
import ReqConflict.Proofs.Model.LongLines
import ReqConflict.Proofs.Expr.Callees
import ReqConflict.Proofs.Expr.Collections
import ReqConflict.Proofs.RuleSet.Repetition
import ReqConflict.Proofs.Pool.Growth
import ReqConflict.Proofs.Interlock.Maximal
import ReqConflict.Proofs.RuleSet.Upward
import ReqConflict.Proofs.Tuple.LongestValue
import ReqConflict.Proofs.Report.RoundTrip
