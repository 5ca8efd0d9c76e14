import GreenRoom.Lib.Checks
import GreenRoom.Lib.JsString

/-!
# JavaScript errors

The values the code throws: an error of a class, with its message.
-/

/-- What is thrown. -/
inductive JsError
  | typeError (message : JsString)
  | rangeError (message : JsString)
  /-- An `Error`, or an error whose `name` has been set. -/
  | error (name message : JsString)
  deriving DecidableEq, Repr

namespace JsError

open JsString

def message : JsError → JsString
  | .typeError message => message
  | .rangeError message => message
  | .error _ message => message

/-- `new Error(message)`. -/
def plain (message : JsString) : JsError := .error (ofString "Error") message

/-- `new Error(message)`, for a literal message. -/
def ofText (message : String) : JsError := plain (ofString message)

end JsError
