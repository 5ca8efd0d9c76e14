import GreenRoom.Lib.JsString

/-!
# JSON text

JSON values over any format of numbers, the text `JSON.stringify` gives them and
the parser `JSON.parse` reads them back with.  Text is a sequence of UTF-16 code
units.  Members of an object keep the order they are written in; a repeated name
keeps its first place and takes its last value.

## Main definitions

* `NumberFormat` — how numbers are printed and read.
* `Json` — values, and access to their parts.
* `Json.stringify`, `Json.parse`.
-/

universe u

open JsString

/-- Where a number may end: any of these code units may belong to a number. -/
def isNumberUnit (u : UInt16) : Bool :=
  isDigit u || u = unit '-' || u = unit '+' || u = unit '.' || u = unit 'e' || u = unit 'E'

/-- Numbers of type `ν` with a text that reads back. -/
structure NumberFormat (ν : Type u) where
  print : ν → JsString
  read : JsString → Option ν
  print_ne_nil : ∀ x, print x ≠ []
  print_units : ∀ x, ∀ u ∈ print x, isNumberUnit u
  read_print : ∀ x, read (print x) = some x

/-- The number a run of digits denotes. -/
def readDigits (s : JsString) : Option ℕ :=
  if s ≠ [] ∧ s.all isDigit then some (digitsValue s) else none

theorem readDigits_ofNat (n : ℕ) : readDigits (ofNat n) = some n := by
  have hall : (ofNat n).all isDigit :=
    List.all_eq_true.mpr fun u hu => isDigit_of_mem_ofNat hu
  rw [readDigits, if_pos ⟨ofNat_ne_nil n, hall⟩, digitsValue_ofNat]

def printInteger : ℤ → JsString
  | .ofNat n => ofNat n
  | .negSucc n => unit '-' :: ofNat (n + 1)

def readInteger (s : JsString) : Option ℤ :=
  if s.head? = some (unit '-') then (readDigits s.tail).map fun n => -(n : ℤ)
  else (readDigits s).map fun n => (n : ℤ)

/-- Whole numbers, as JavaScript prints those below 2^53 in magnitude. -/
def integerFormat : NumberFormat ℤ where
  print := printInteger
  read := readInteger
  print_ne_nil x := by
    cases x with
    | ofNat n => exact ofNat_ne_nil n
    | negSucc n => exact List.cons_ne_nil _ _
  print_units x u hu := by
    cases x with
    | ofNat n => simp [isNumberUnit, isDigit_of_mem_ofNat hu]
    | negSucc n =>
        rcases List.mem_cons.mp hu with rfl | hu
        · decide
        · simp [isNumberUnit, isDigit_of_mem_ofNat hu]
  read_print x := by
    cases x with
    | ofNat n =>
        have hhead : (ofNat n).head? ≠ some (unit '-') := by
          intro h
          have hdigit := isDigit_of_mem_ofNat (List.mem_of_mem_head? h)
          exact absurd hdigit (by decide)
        rw [printInteger, readInteger, if_neg hhead, readDigits_ofNat]
        rfl
    | negSucc n =>
        rw [printInteger, readInteger, List.head?_cons, if_pos rfl, List.tail_cons,
          readDigits_ofNat]
        rfl

inductive Json (ν : Type u)
  | null
  | bool (b : Bool)
  | num (x : ν)
  | str (s : JsString)
  | arr (elements : List (Json ν))
  | obj (members : List (JsString × Json ν))

namespace Json

variable {ν : Type u}

/-! ## Access -/

/-- The value of a member; `none` is `undefined`. -/
def member? (k : JsString) : Json ν → Option (Json ν)
  | .obj members => members.lookup k
  | _ => none

/-- The names of an object's members. -/
def keys : Json ν → List JsString
  | .obj members => members.map Prod.fst
  | _ => []

def str? : Json ν → Option JsString
  | .str s => some s
  | _ => none

def num? : Json ν → Option ν
  | .num x => some x
  | _ => none

def isNull : Json ν → Bool
  | .null => true
  | _ => false

/-! ## Equality -/

mutual

def decEq [DecidableEq ν] : (v w : Json ν) → Decidable (v = w)
  | .null, .null => isTrue rfl
  | .bool b, .bool c => decidable_of_iff (b = c) (by simp)
  | .num x, .num y => decidable_of_iff (x = y) (by simp)
  | .str s, .str t => decidable_of_iff (s = t) (by simp)
  | .arr vs, .arr ws =>
      have := decEqElements vs ws
      decidable_of_iff (vs = ws) (by simp)
  | .obj vs, .obj ws =>
      have := decEqMembers vs ws
      decidable_of_iff (vs = ws) (by simp)
  | .null, .bool _ | .null, .num _ | .null, .str _ | .null, .arr _ | .null, .obj _
  | .bool _, .null | .bool _, .num _ | .bool _, .str _ | .bool _, .arr _ | .bool _, .obj _
  | .num _, .null | .num _, .bool _ | .num _, .str _ | .num _, .arr _ | .num _, .obj _
  | .str _, .null | .str _, .bool _ | .str _, .num _ | .str _, .arr _ | .str _, .obj _
  | .arr _, .null | .arr _, .bool _ | .arr _, .num _ | .arr _, .str _ | .arr _, .obj _
  | .obj _, .null | .obj _, .bool _ | .obj _, .num _ | .obj _, .str _ | .obj _, .arr _ =>
      isFalse (by simp)

def decEqElements [DecidableEq ν] : (vs ws : List (Json ν)) → Decidable (vs = ws)
  | [], [] => isTrue rfl
  | [], _ :: _ | _ :: _, [] => isFalse (by simp)
  | v :: vs, w :: ws =>
      have := decEq v w
      have := decEqElements vs ws
      decidable_of_iff (v = w ∧ vs = ws) (by simp)

def decEqMembers [DecidableEq ν] :
    (vs ws : List (JsString × Json ν)) → Decidable (vs = ws)
  | [], [] => isTrue rfl
  | [], _ :: _ | _ :: _, [] => isFalse (by simp)
  | (k, v) :: vs, (l, w) :: ws =>
      have := decEq v w
      have := decEqMembers vs ws
      decidable_of_iff (k = l ∧ v = w ∧ vs = ws) (by simp [and_assoc])

end

instance [DecidableEq ν] : DecidableEq (Json ν) := decEq

/-! ## Writing -/

/-- A lower-case hexadecimal digit. -/
def hexDigit (n : ℕ) : UInt16 := if n < 10 then (48 + n).toUInt16 else (87 + n).toUInt16

/-- `\uXXXX`. -/
def unicodeEscape (u : UInt16) : JsString :=
  [unit '\\', unit 'u', hexDigit (u.toNat / 4096), hexDigit (u.toNat / 256 % 16),
    hexDigit (u.toNat / 16 % 16), hexDigit (u.toNat % 16)]

/-- The escape letter of a code unit that has one. -/
def shortEscape (u : UInt16) : Option UInt16 :=
  if u = 8 then some (unit 'b')
  else if u = 9 then some (unit 't')
  else if u = 10 then some (unit 'n')
  else if u = 12 then some (unit 'f')
  else if u = 13 then some (unit 'r')
  else if u = unit '"' then some (unit '"')
  else if u = unit '\\' then some (unit '\\')
  else none

/-- One code unit inside quotes, when it is not part of a surrogate pair. -/
def quoteUnit (u : UInt16) : JsString :=
  match shortEscape u with
  | some letter => [unit '\\', letter]
  | none => if u < 32 || isLead u || isTrail u then unicodeEscape u else [u]

/-- The text between the quotes; a surrogate pair stands as it is. -/
def quoteBody : JsString → JsString
  | u :: v :: s =>
    if isLead u && isTrail v then u :: v :: quoteBody s else quoteUnit u ++ quoteBody (v :: s)
  | [u] => quoteUnit u
  | [] => []

def quote (s : JsString) : JsString := unit '"' :: quoteBody s ++ [unit '"']

mutual

/-- The text of a value, as `JSON.stringify` writes it. -/
def stringify (F : NumberFormat ν) : Json ν → JsString
  | .null => ofString "null"
  | .bool b => if b then ofString "true" else ofString "false"
  | .num x => F.print x
  | .str s => quote s
  | .arr elements => unit '[' :: stringifyElements F elements ++ [unit ']']
  | .obj members => unit '\x7b' :: stringifyMembers F members ++ [unit '\x7d']

def stringifyElements (F : NumberFormat ν) : List (Json ν) → JsString
  | [] => []
  | [v] => stringify F v
  | v :: w :: vs => stringify F v ++ unit ',' :: stringifyElements F (w :: vs)

def stringifyMembers (F : NumberFormat ν) : List (JsString × Json ν) → JsString
  | [] => []
  | [(k, v)] => quote k ++ unit ':' :: stringify F v
  | (k, v) :: m :: ms => quote k ++ unit ':' :: stringify F v ++
    unit ',' :: stringifyMembers F (m :: ms)

end

/-! ## Reading -/

/-- The white space JSON allows between tokens. -/
def isJsonSpace (u : UInt16) : Bool := u = 32 || u = 9 || u = 10 || u = 13

def skipSpace (s : JsString) : JsString := s.dropWhile isJsonSpace

def hexValue (u : UInt16) : Option ℕ :=
  if 48 ≤ u && u ≤ 57 then some (u.toNat - 48)
  else if 97 ≤ u && u ≤ 102 then some (u.toNat - 87)
  else if 65 ≤ u && u ≤ 70 then some (u.toNat - 55)
  else none

/-- The code unit a letter after a backslash stands for. -/
def unescape (u : UInt16) : Option UInt16 :=
  if u = unit 'b' then some 8
  else if u = unit 't' then some 9
  else if u = unit 'n' then some 10
  else if u = unit 'f' then some 12
  else if u = unit 'r' then some 13
  else if u = unit '"' || u = unit '\\' || u = unit '/' then some u
  else none

/-- The string up to the closing quote, and the text after it. -/
def readString : JsString → Option (JsString × JsString)
  | [] => none
  | u :: s =>
    if u = unit '"' then some ([], s)
    else if u = unit '\\' then
      match s with
      | [] => none
      | e :: s =>
        if e = unit 'u' then
          match s with
          | a :: b :: c :: d :: s =>
            match hexValue a, hexValue b, hexValue c, hexValue d with
            | some a, some b, some c, some d =>
              (readString s).map fun (t, r) =>
                ((a * 4096 + b * 256 + c * 16 + d).toUInt16 :: t, r)
            | _, _, _, _ => none
          | _ => none
        else
          match unescape e with
          | some v => (readString s).map fun (t, r) => (v :: t, r)
          | none => none
    else if u < 32 then none
    else (readString s).map fun (t, r) => (u :: t, r)

/-- Give a name its value: in the place it has, or else at the end. -/
def setMember (k : JsString) (v : Json ν) : List (JsString × Json ν) → List (JsString × Json ν)
  | [] => [(k, v)]
  | (k', v') :: ms => if k' = k then (k, v) :: ms else (k', v') :: setMember k v ms

/-- The members of an object literal, repeated names resolved. -/
def assemble (members : List (JsString × Json ν)) : List (JsString × Json ν) :=
  members.foldl (fun ms m => setMember m.1 m.2 ms) []

/-- Read the letters of a literal. -/
def readLiteral (literal : String) (value : Json ν) (s : JsString) :
    Option (Json ν × JsString) :=
  let letters := ofString literal
  if s.take letters.length = letters then some (value, s.drop letters.length) else none

mutual

/-- A value and the text after it.  Two units of fuel for each code unit suffice. -/
def parseValue (F : NumberFormat ν) : ℕ → JsString → Option (Json ν × JsString)
  | 0, _ => none
  | fuel + 1, s =>
    match skipSpace s with
    | [] => none
    | u :: rest =>
      if u = unit '"' then (readString rest).map fun (t, r) => (.str t, r)
      else if u = unit '[' then
        match skipSpace rest with
        | [] => none
        | v :: r =>
          if v = unit ']' then some (.arr [], r)
          else (parseElements F fuel (v :: r)).map fun (vs, r) => (.arr vs, r)
      else if u = unit '\x7b' then
        match skipSpace rest with
        | [] => none
        | v :: r =>
          if v = unit '\x7d' then some (.obj [], r)
          else (parseMembers F fuel (v :: r)).map fun (ms, r) => (.obj (assemble ms), r)
      else if u = unit 'n' then readLiteral "null" .null (u :: rest)
      else if u = unit 't' then readLiteral "true" (.bool true) (u :: rest)
      else if u = unit 'f' then readLiteral "false" (.bool false) (u :: rest)
      else
        (F.read ((u :: rest).takeWhile isNumberUnit)).map fun x =>
          (.num x, (u :: rest).dropWhile isNumberUnit)

/-- The elements of an array, up to its closing bracket. -/
def parseElements (F : NumberFormat ν) : ℕ → JsString → Option (List (Json ν) × JsString)
  | 0, _ => none
  | fuel + 1, s =>
    match parseValue F fuel s with
    | none => none
    | some (v, r) =>
      match skipSpace r with
      | [] => none
      | u :: r =>
        if u = unit ',' then (parseElements F fuel r).map fun (vs, r) => (v :: vs, r)
        else if u = unit ']' then some ([v], r)
        else none

/-- The members of an object, up to its closing brace. -/
def parseMembers (F : NumberFormat ν) :
    ℕ → JsString → Option (List (JsString × Json ν) × JsString)
  | 0, _ => none
  | fuel + 1, s =>
    match skipSpace s with
    | [] => none
    | u :: r =>
      if u = unit '"' then
        match readString r with
        | none => none
        | some (k, r) =>
          match skipSpace r with
          | [] => none
          | u :: r =>
            if u = unit ':' then
              match parseValue F fuel r with
              | none => none
              | some (v, r) =>
                match skipSpace r with
                | [] => none
                | u :: r =>
                  if u = unit ',' then
                    (parseMembers F fuel r).map fun (ms, r) => ((k, v) :: ms, r)
                  else if u = unit '\x7d' then some ([(k, v)], r)
                  else none
            else none
      else none

end

/-- `JSON.parse`. -/
def parse (F : NumberFormat ν) (text : JsString) : Option (Json ν) :=
  match parseValue F (2 * text.length + 1) text with
  | some (v, rest) => if skipSpace rest = [] then some v else none
  | none => none

end Json
