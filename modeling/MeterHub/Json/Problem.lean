import MeterHub.Json.Node
import MeterHub.Text.Inspect
import MeterHub.Json.Shortest

/-!
Problems met while a document is read: it ends too early, it is malformed, or it is a value of the
wrong shape. Only a wrong shape has a message.
-/

set_option autoImplicit false
set_option relaxedAutoImplicit false

namespace MeterHub.Json

/-- A value in a place where another kind of value was due. -/
inductive Found
  | null
  | bool (b : Bool)
  | integer (n : Int)
  | floating (x : Float)
  | text (s : String)
  | sequence
  | map

/-- How a value of another kind is named. -/
def Found.description : Found → String
  | .null => "null"
  | .bool b => "boolean `" ++ Text.inspectBool b ++ "`"
  | .integer n => "integer `" ++ toString n ++ "`"
  | .floating x => "floating point `" ++ floatText x ++ "`"
  | .text s => "string " ++ Text.inspectText s
  | .sequence => "sequence"
  | .map => "map"

inductive Mismatch
  | wrongType (found : Found) (wanted : String)
  | outOfRange (found : Int) (wanted : String)
  | wrongLength (length : Nat) (wanted : String)
  | unknownVariant (name : String) (wanted : List String)
  | unknownField (name : String) (wanted : List String)
  | missingField (name : String)
  | duplicateField (name : String)
  /-- The parts are well shaped, and together they are refused for a reason. -/
  | refused (reason : String)

/-- The two names that are accepted, or however many there are, each between backticks. -/
def namesText (names : List String) : String :=
  " or ".intercalate (names.map fun name => "`" ++ name ++ "`")

def Mismatch.message : Mismatch → String
  | .wrongType found wanted => "invalid type: " ++ found.description ++ ", expected " ++ wanted
  | .outOfRange found wanted =>
    "invalid value: " ++ (Found.integer found).description ++ ", expected " ++ wanted
  | .wrongLength length wanted =>
    "invalid length " ++ toString length ++ ", expected " ++ wanted
  | .unknownVariant name wanted =>
    "unknown variant `" ++ name ++ "`, expected " ++ namesText wanted
  | .unknownField name wanted => "unknown field `" ++ name ++ "`, expected " ++ namesText wanted
  | .missingField name => "missing field `" ++ name ++ "`"
  | .duplicateField name => "duplicate field `" ++ name ++ "`"
  | .refused reason => reason

/-- What keeps a document from being read as a value of some type. -/
inductive Problem
  | ended
  | malformed
  | mismatch (m : Mismatch)

/-- A place where reading stops is a problem of its own kind. -/
def Problem.ofBreak : Break → Problem
  | .ended => .ended
  | .malformed => .malformed

def Problem.category : Problem → String
  | .ended => "eof"
  | .malformed => "syntax"
  | .mismatch _ => "data"

def Problem.message? : Problem → Option String
  | .mismatch m => some m.message
  | _ => none

end MeterHub.Json
