import Mathlib.Data.Nat.Digits.Lemmas

/-!
# JavaScript strings

A JavaScript string is a sequence of UTF-16 code units, of which a surrogate need
not have its partner.  Lengths, comparison and `trim` all work on code units.

## Main definitions

* `JsString` — code units.
* `JsString.ofString` — the code units of a text of Unicode scalar values.
* `JsString.isSpace`, `JsString.trim` — white space as `String.prototype.trim` sees it.
* `JsString.le` — the order `Array.prototype.sort` uses.
-/

/-- A JavaScript string: its UTF-16 code units. -/
abbrev JsString := List UInt16

namespace JsString

instance : LawfulBEq JsString := List.instLawfulBEq

/-- The code unit of a character of the basic plane. -/
def unit (c : Char) : UInt16 := c.toNat.toUInt16

/-- The code units of one Unicode scalar value. -/
def ofChar (c : Char) : JsString :=
  if c.toNat < 0x10000 then [unit c]
  else [(0xD800 + (c.toNat - 0x10000) / 0x400).toUInt16,
    (0xDC00 + (c.toNat - 0x10000) % 0x400).toUInt16]

def ofString (s : String) : JsString := s.toList.flatMap ofChar

/-- The first half of a surrogate pair. -/
def isLead (u : UInt16) : Bool := 0xD800 ≤ u && u ≤ 0xDBFF

/-- The second half of a surrogate pair. -/
def isTrail (u : UInt16) : Bool := 0xDC00 ≤ u && u ≤ 0xDFFF

/-- White space and line terminators, all of them single code units. -/
def isSpace (u : UInt16) : Bool :=
  u ∈ ([0x9, 0xA, 0xB, 0xC, 0xD, 0x20, 0xA0, 0x1680, 0x2028, 0x2029, 0x202F, 0x205F, 0x3000,
    0xFEFF] : List UInt16) || (0x2000 ≤ u && u ≤ 0x200A)

/-- `String.prototype.trim`. -/
def trim (s : JsString) : JsString :=
  ((s.dropWhile isSpace).reverse.dropWhile isSpace).reverse

/-- `String.prototype.trimEnd`. -/
def trimEnd (s : JsString) : JsString := (s.reverse.dropWhile isSpace).reverse

/-- Lexicographic order on code units. -/
def le : JsString → JsString → Bool
  | [], _ => true
  | _ :: _, [] => false
  | u :: s, v :: t => u < v || (u = v && le s t)

theorem le_total (s t : JsString) : le s t ∨ le t s := by
  induction s generalizing t with
  | nil => exact .inl rfl
  | cons u s ih =>
      cases t with
      | nil => exact .inr rfl
      | cons v t =>
          simp only [le, Bool.or_eq_true, Bool.and_eq_true, decide_eq_true_eq]
          by_cases h : u = v
          · subst h
            exact (ih t).imp (fun h => .inr ⟨rfl, h⟩) fun h => .inr ⟨rfl, h⟩
          · exact (UInt16.lt_or_lt_of_ne h).imp .inl .inl

theorem le_trans {s t v : JsString} (h : le s t) (h' : le t v) : le s v := by
  induction s generalizing t v with
  | nil => rfl
  | cons a s ih =>
      cases t with
      | nil => cases h
      | cons b t =>
          cases v with
          | nil => cases h'
          | cons c v =>
              simp only [le, Bool.or_eq_true, Bool.and_eq_true, decide_eq_true_eq] at h h' ⊢
              rcases h with hab | ⟨rfl, h⟩ <;> rcases h' with hbc | ⟨rfl, h'⟩
              · exact .inl (UInt16.lt_trans hab hbc)
              · exact .inl hab
              · exact .inl hbc
              · exact .inr ⟨rfl, ih h h'⟩

/-- `Array.prototype.join`. -/
def join (separator : JsString) (parts : List JsString) : JsString :=
  separator.intercalate parts

/-! ## Decimal digits -/

/-- The decimal digits of a number, most significant first. -/
def ofNat (n : ℕ) : JsString :=
  if n = 0 then [unit '0'] else ((Nat.digits 10 n).map fun d => (48 + d).toUInt16).reverse

def isDigit (u : UInt16) : Bool := 48 ≤ u && u ≤ 57

/-- The number a run of decimal digits denotes. -/
def digitsValue (s : JsString) : ℕ := Nat.ofDigits 10 (s.map fun u => u.toNat - 48).reverse

theorem toNat_digit {d : ℕ} (h : d < 10) : (48 + d).toUInt16.toNat = 48 + d := by
  simp only [Nat.toUInt16, UInt16.toNat_ofNat']
  omega

theorem ofNat_ne_nil (n : ℕ) : ofNat n ≠ [] := by
  unfold ofNat
  split
  · simp
  · simpa [Nat.digits_ne_nil_iff_ne_zero]

theorem isDigit_of_mem_ofNat {n : ℕ} {u : UInt16} (hu : u ∈ ofNat n) : isDigit u := by
  have hdigit : ∀ d, d < 10 → isDigit (48 + d).toUInt16 = true := by decide
  unfold ofNat at hu
  split at hu
  · rw [List.mem_singleton] at hu
    subst hu
    decide
  · rw [List.mem_reverse, List.mem_map] at hu
    obtain ⟨d, hd, rfl⟩ := hu
    exact hdigit d (Nat.digits_lt_base (by omega) hd)

theorem isSpace_of_mem_ofNat {n : ℕ} {u : UInt16} (hu : u ∈ ofNat n) : isSpace u = false := by
  have hdigit : ∀ d, d < 10 → isSpace (48 + d).toUInt16 = false := by decide
  unfold ofNat at hu
  split at hu
  · rw [List.mem_singleton] at hu
    subst hu
    decide
  · rw [List.mem_reverse, List.mem_map] at hu
    obtain ⟨d, hd, rfl⟩ := hu
    exact hdigit d (Nat.digits_lt_base (by omega) hd)

/-- There is nothing to trim off a number. -/
theorem trim_ofNat (n : ℕ) : trim (ofNat n) = ofNat n := by
  have hkept : ∀ s : JsString, (∀ u ∈ s, isSpace u = false) → s.dropWhile isSpace = s := by
    intro s hs
    cases s with
    | nil => rfl
    | cons u t => exact List.dropWhile_cons_of_neg (by simp [hs u List.mem_cons_self])
  rw [trim, hkept _ fun u hu => isSpace_of_mem_ofNat hu,
    hkept _ fun u hu => isSpace_of_mem_ofNat (List.mem_reverse.mp hu), List.reverse_reverse]

theorem length_ofNat_le {n k : ℕ} (hk : 0 < k) (h : n < 10 ^ k) : (ofNat n).length ≤ k := by
  unfold ofNat
  split
  · exact hk
  · rw [List.length_reverse, List.length_map]
    exact (Nat.digits_length_le_iff (by decide) n).mpr h

theorem digitsValue_ofNat (n : ℕ) : digitsValue (ofNat n) = n := by
  unfold digitsValue ofNat
  split
  · next h => subst h; decide
  · have hmap : ((Nat.digits 10 n).map fun d => (48 + d).toUInt16).map (fun u => u.toNat - 48) =
        Nat.digits 10 n := by
      rw [List.map_map]
      refine (List.map_congr_left ?_).trans (List.map_id _)
      intro d hd
      rw [Function.comp_apply, toNat_digit (Nat.digits_lt_base (by omega) hd), id_eq]
      omega
    rw [List.map_reverse, List.reverse_reverse, hmap, Nat.ofDigits_digits]

theorem ofNat_injective : Function.Injective ofNat := fun m n h => by
  rw [← digitsValue_ofNat m, h, digitsValue_ofNat]

end JsString
