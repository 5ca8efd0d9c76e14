import GreenRoom.Lib.Json

/-!
# JSON columns of an SQL table

What `json_extract` reads off a stored JSON value, and how SQL compares it: a
comparison with NULL is neither true nor false, so that it satisfies a CHECK
constraint and fails a WHERE clause.

## Main definitions

* `SqlValue` — what an expression over JSON can be.
* `Json.extract` — `json_extract` at a member of the top level.
* `SqlValue.mayEqual` — an equation, as a CHECK constraint takes it.
-/

universe u

open JsString

/-- The value of an SQL expression.  The text of an array or an object is kept apart
from every other text. -/
inductive SqlValue (ν : Type u)
  | null
  | number (x : ν)
  | text (s : JsString)
  | composite (v : Json ν)
  deriving DecidableEq

namespace SqlValue

variable {ν : Type u}

/-- A text column. -/
def ofText (s : String) : SqlValue ν := .text (ofString s)

/-- A text column that may be NULL. -/
def ofText? : Option String → SqlValue ν
  | none => .null
  | some s => ofText s

/-- An integer column. -/
def ofNat [NatCast ν] (n : ℕ) : SqlValue ν := .number n

/-- `CHECK (v = w)`: not false. -/
def mayEqual [DecidableEq ν] (v w : SqlValue ν) : Bool := v = .null || w = .null || v = w

@[simp] theorem ofText?_eq_null {s : Option String} :
    (ofText? s : SqlValue ν) = .null ↔ s = none := by
  cases s <;> simp [ofText?, ofText]

end SqlValue

namespace Json

variable {ν : Type u}

/-- `json_extract(v, '$.k')`: booleans are the numbers 1 and 0. -/
def extract [NatCast ν] (v : Json ν) (k : String) : SqlValue ν :=
  match v.member? (ofString k) with
  | none | some .null => .null
  | some (.bool b) => .ofNat (if b then 1 else 0)
  | some (.num x) => .number x
  | some (.str s) => .text s
  | some w => .composite w

/-- `json_extract(v, '$.k.l')`. -/
def extractIn [NatCast ν] (v : Json ν) (k l : String) : SqlValue ν :=
  match v.member? (ofString k) with
  | some w => w.extract l
  | none => .null

/-- `json_type(v) = 'object'`. -/
def isObject : Json ν → Bool
  | .obj _ => true
  | _ => false

end Json
