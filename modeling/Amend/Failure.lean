import Amend.Policy.Error
import Amend.Rejection

/-!
# Failures

How a call on a whole batch can end without a result: the policy is wrong, a request is rejected, or a
fault ends it.
-/

namespace Amend

/-- How a call on a batch ends without a result. -/
inductive Failure where
  | policy (e : PolicyError)
  | rejected (r : Rejection)
  | fault (f : Fault)

namespace Failure

/-- The failure of a call whose policy is refused. -/
def ofPolicy : OrFault PolicyError → Failure
  | .refused e => .policy e
  | .fault f => .fault f

end Failure

end Amend
