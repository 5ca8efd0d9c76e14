import Mathlib.Data.List.Basic

/-!
# Tilings

Intervals of numbers that lie end to end, from one number to another.

## Main definitions

* `Tiles` — the intervals of a list lie end to end.
* `Covers` — an interval holds a number.

## Main results

* `Tiles.countP_covers` — every number between the two ends is in exactly one interval.
-/

/-- The intervals of the list, in order, lie end to end from `start` to `stop`. -/
inductive Tiles : ℕ → List (ℕ × ℕ) → ℕ → Prop
  | nil (stop : ℕ) : Tiles stop [] stop
  | cons {start middle stop : ℕ} {rest : List (ℕ × ℕ)} : start ≤ middle → Tiles middle rest stop →
      Tiles start ((start, middle) :: rest) stop

/-- The interval holds `n`; its second end does not belong to it. -/
def Covers (span : ℕ × ℕ) (n : ℕ) : Prop := span.1 ≤ n ∧ n < span.2

instance (span : ℕ × ℕ) (n : ℕ) : Decidable (Covers span n) := inferInstanceAs (Decidable (_ ∧ _))

namespace Tiles

variable {start stop : ℕ} {spans : List (ℕ × ℕ)}

theorem le (h : Tiles start spans stop) : start ≤ stop := by
  induction h with
  | nil => exact Nat.le_refl _
  | cons hle _ ih => exact Nat.le_trans hle ih

/-- A number between the two ends is in exactly one interval. -/
theorem countP_covers (h : Tiles start spans stop) (n : ℕ) :
    spans.countP (fun span => Covers span n) = if start ≤ n ∧ n < stop then 1 else 0 := by
  induction h with
  | nil stop => rw [List.countP_nil, if_neg (by omega)]
  | @cons start middle stop rest hle htiles ih =>
      have hmiddle := htiles.le
      rw [List.countP_cons, ih]
      by_cases hcovers : start ≤ n ∧ n < middle
      · have hin : Covers (start, middle) n := hcovers
        rw [if_neg (by omega), decide_eq_true hin, if_pos rfl, if_pos (by omega)]
      · have hout : ¬ Covers (start, middle) n := hcovers
        rw [decide_eq_false hout, if_neg Bool.false_ne_true, Nat.add_zero]
        by_cases hin : middle ≤ n ∧ n < stop
        · rw [if_pos hin, if_pos (by omega)]
        · rw [if_neg hin, if_neg (by omega)]

end Tiles
