import CalcConsole.Json.Reader
import CalcConsole.Text.Quoted
/-! # Why a value does not decode

A `Fault` is either `malformed`, when the text is not JSON at that place, or says how a well-formed part differs from
what was wanted. -/
namespace CalcConsole

inductive Fault where
  | malformed
  | missingField (name : String)
  | duplicateField (name : String)
  | unknownVariant (found : String) (variants : List String)
  | wrongType (found expected : String)
  | outOfRange (n : Int) (expected : String)
  | wrongLength (length : Nat) (expected : String)
  | noAlternative (type : String)
  | badTimestamp
deriving DecidableEq, Repr

namespace Fault

def ticked (s : String) : String := "`" ++ s ++ "`"

def oneOf : List String → String
  | [] => "there are no variants"
  | [a] => "expected " ++ ticked a
  | [a, b] => "expected " ++ ticked a ++ " or " ++ ticked b
  | vs => "expected one of " ++ ", ".intercalate (vs.map ticked)

/-- What is said of a fault.  The library that reads the text has words of its own for one that is no JSON, with the line
and the column of the fault, and so has the one for time stamps; a mark stands for either here. -/
def message : Fault → String
  | malformed => "<invalid JSON>"
  | missingField name => "missing field " ++ ticked name
  | duplicateField name => "duplicate field " ++ ticked name
  | unknownVariant found variants => "unknown variant " ++ ticked found ++ ", " ++ oneOf variants
  | wrongType found expected => "invalid type: " ++ found ++ ", expected " ++ expected
  | outOfRange n expected => "invalid value: integer " ++ ticked (toString n) ++ ", expected " ++ expected
  | wrongLength length expected => "invalid length " ++ toString length ++ ", expected " ++ expected
  | noAlternative type => "data did not match any variant of untagged enum " ++ type
  | badTimestamp => "<invalid timestamp>"

end Fault

namespace Json

def unfit (v : Json) (expected : String) : Fault :=
  match v with
  | .null => .wrongType "null" expected
  | .bool b => .wrongType ("boolean " ++ Fault.ticked (toString b)) expected
  | .number (.whole n) => .wrongType ("integer " ++ Fault.ticked (toString n)) expected
  | .number (.real x) => .wrongType ("floating point " ++ Fault.ticked (String.ofList x.marked)) expected
  | .number .beyond => .malformed
  | .string (some s) => .wrongType ("string " ++ Text.quoted s) expected
  | .string none => .malformed
  | .array _ => .wrongType "sequence" expected
  | .object _ => .wrongType "map" expected
  | .broken => .malformed

end Json
end CalcConsole
