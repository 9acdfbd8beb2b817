import MeterHub.Text.Inspect

/-!
Expectations: a value that must be there. What comes instead is told in the message of the failed
expectation.
-/

set_option autoImplicit false
set_option relaxedAutoImplicit false

namespace MeterHub.Expect

variable {α ε : Type}

/-- The result of an operation that must have succeeded. -/
def must (inspectError : ε → String) : Except ε α → Except String α
  | .ok a => .ok a
  | .error e => .error ("must: unexpected Err: " ++ inspectError e)

/-- The result of an operation that must have succeeded; the message tells the context. -/
def mustWith (context : String) (inspectError : ε → String) : Except ε α → Except String α
  | .ok a => .ok a
  | .error e => .error ("must_with: " ++ context ++ ": " ++ inspectError e)

/-- The error of an operation that must have failed. -/
def mustErr (inspectValue : α → String) : Except ε α → Except String ε
  | .ok a => .error ("must_err: unexpected Ok: " ++ inspectValue a)
  | .error e => .ok e

def mustSome (message : String) : Option α → Except String α
  | some a => .ok a
  | none => .error ("must_some: " ++ message)

end MeterHub.Expect
