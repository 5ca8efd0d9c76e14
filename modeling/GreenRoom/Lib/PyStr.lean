import Mathlib.Data.List.Basic

/-!
# Python strings

A string is a list of code points, surrogates among them.

## Main definitions

* `PyStr` — a string.
* `PyStr.decode` — `bytes.decode("utf-8")`.
* `PyStr.lower` — `str.lower` on ASCII.
* `PyStr.split` — `str.split` at a character.
-/

abbrev Bytes := List UInt8

abbrev CodePoint := Fin 0x110000

abbrev PyStr := List CodePoint

namespace CodePoint

def ofChar (c : Char) : CodePoint :=
  ⟨c.toNat, by
    rcases c.valid with h | ⟨-, h⟩
    · exact Nat.lt_trans h (by decide)
    · exact h⟩

def ofByte (b : UInt8) : CodePoint := ⟨b.toNat, Nat.lt_trans b.toNat_lt (by decide)⟩

/-- `str.lower` of an ASCII character. -/
def lower (c : CodePoint) : CodePoint := if 0x41 ≤ c.val ∧ c.val ≤ 0x5A then c + 0x20 else c

def isAlphanumeric (c : CodePoint) : Bool :=
  (0x30 ≤ c.val && c.val ≤ 0x39) || (0x41 ≤ c.val && c.val ≤ 0x5A) || (0x61 ≤ c.val && c.val ≤ 0x7A)

end CodePoint

namespace PyStr

def ofString (s : String) : PyStr := s.toList.map CodePoint.ofChar

def char (c : Char) : CodePoint := CodePoint.ofChar c

/-- `bytes.decode("ascii")` of bytes that are all ASCII. -/
def ofAscii (bytes : Bytes) : PyStr := bytes.map CodePoint.ofByte

def lower (s : PyStr) : PyStr := s.map CodePoint.lower

def split (s : PyStr) (separator : CodePoint) : List PyStr := s.splitOn separator

/-- `separator.join(parts)`. -/
def join (separator : CodePoint) (parts : List PyStr) : PyStr := [separator].intercalate parts

theorem join_append {separator : CodePoint} {l m : List PyStr} (hl : l ≠ []) (hm : m ≠ []) :
    join separator (l ++ m) = join separator l ++ separator :: join separator m := by
  induction l with
  | nil => exact absurd rfl hl
  | cons s l ih =>
      unfold join at ih ⊢
      cases l with
      | nil =>
          rw [List.singleton_append, List.intercalate_cons_of_ne_nil hm, List.intercalate_singleton,
            List.append_assoc, List.singleton_append]
      | cons t l =>
          rw [List.cons_append, List.cons_append, List.intercalate_cons_cons, ← List.cons_append,
            ih (List.cons_ne_nil _ _), List.intercalate_cons_cons, List.append_assoc,
            List.append_assoc, List.append_assoc]

/-- The last six bits of a byte that continues a code point. -/
def continuation (b : UInt8) : Option ℕ :=
  if 0x80 ≤ b.toNat ∧ b.toNat < 0xC0 then some (b.toNat - 0x80) else none

def codePoint (n : ℕ) : Option CodePoint :=
  if h : n < 0x110000 then if (0xD800 ≤ n ∧ n ≤ 0xDFFF) then none else some ⟨n, h⟩ else none

/-- `bytes.decode("utf-8")`. -/
def decode : Bytes → Option PyStr
  | [] => some []
  | b :: rest =>
    if b.toNat < 0x80 then do
      let c ← codePoint b.toNat
      let s ← decode rest
      return c :: s
    else match rest with
      | [] => none
      | b₁ :: rest =>
        if 0xC2 ≤ b.toNat ∧ b.toNat < 0xE0 then do
          let n₁ ← continuation b₁
          let c ← codePoint ((b.toNat - 0xC0) * 0x40 + n₁)
          let s ← decode rest
          return c :: s
        else match rest with
          | [] => none
          | b₂ :: rest =>
            if 0xE0 ≤ b.toNat ∧ b.toNat < 0xF0 then do
              let n₁ ← continuation b₁
              let n₂ ← continuation b₂
              let n := (b.toNat - 0xE0) * 0x1000 + n₁ * 0x40 + n₂
              if n < 0x800 then none
              let c ← codePoint n
              let s ← decode rest
              return c :: s
            else match rest with
              | [] => none
              | b₃ :: rest =>
                if 0xF0 ≤ b.toNat ∧ b.toNat < 0xF8 then do
                  let n₁ ← continuation b₁
                  let n₂ ← continuation b₂
                  let n₃ ← continuation b₃
                  let n := (b.toNat - 0xF0) * 0x40000 + n₁ * 0x1000 + n₂ * 0x40 + n₃
                  if n < 0x10000 then none
                  let c ← codePoint n
                  let s ← decode rest
                  return c :: s
                else none

end PyStr
