import GreenRoom.Lib.JsString

/-!
# JavaScript strings as bytes

How long a string is once it is written in UTF-8.  A surrogate without its partner has no
bytes of its own; a `TextEncoder` writes the replacement character for it.

## Main definitions

* `JsString.utf8Length` — the number of bytes.
* `JsString.isWellFormed` — every surrogate has its partner.
-/

namespace JsString

/-- The bytes of a code unit that is not half of a pair. -/
def unitBytes (u : UInt16) : ℕ := if u < 0x80 then 1 else if u < 0x800 then 2 else 3

/-- `new TextEncoder().encode(value).byteLength`. -/
def utf8Length : JsString → ℕ
  | [] => 0
  | [u] => unitBytes u
  | u :: v :: rest =>
    if isLead u && isTrail v then 4 + utf8Length rest else unitBytes u + utf8Length (v :: rest)

def isWellFormed : JsString → Bool
  | [] => true
  | [u] => !isLead u && !isTrail u
  | u :: v :: rest =>
    if isLead u then isTrail v && isWellFormed rest else !isTrail u && isWellFormed (v :: rest)

end JsString
