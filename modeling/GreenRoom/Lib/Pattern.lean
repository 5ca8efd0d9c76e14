import GreenRoom.Lib.JsString
import Mathlib.Data.List.Infix

/-!
# Patterns

Regular expressions over code units, with assertions about what stands before and after a
place.  A pattern has the ends of all its matches from a place; whether a text has a match
is all that is asked, so the order in which they are tried is left out.

## Main definitions

* `Pattern`, `Pattern.ends`, `Pattern.test`.
* `Pattern.forward` — no match depends on what follows it.
* `Pattern.Carries` — a match in a prefix of a text is one in the text.

## Main results

* `Pattern.Carries.of_forward`, `Pattern.Carries.seq`, `Pattern.Carries.alt`
* `Pattern.Carries.seq_below`, `Pattern.CarriesBelow.seq` — an assertion about what follows,
  after something that does not end the prefix, and before something that is not empty.
-/

open JsString

inductive Pattern
  | empty
  | unit (test : UInt16 → Bool)
  | seq (p q : Pattern)
  | alt (p q : Pattern)
  | star (p : Pattern)
  | ahead (p : Pattern)
  | notAhead (p : Pattern)
  | notBehind (test : UInt16 → Bool)
  | boundary (word : UInt16 → Bool)
  | start
  | stop

namespace Pattern

/-! ## Matches -/

/-- Where any number of rounds may end, at most so many of them. -/
def rounds (step : ℕ → List ℕ) : ℕ → ℕ → List ℕ
  | 0, i => [i]
  | fuel + 1, i => i :: (step i).flatMap (rounds step fuel)

/-- The ends of the matches from a place. -/
def ends (text : JsString) : Pattern → ℕ → List ℕ
  | .empty, i => [i]
  | .unit test, i => if text[i]?.any test then [i + 1] else []
  | .seq p q, i => (ends text p i).flatMap (ends text q)
  | .alt p q, i => ends text p i ++ ends text q i
  | .star p, i => rounds (ends text p) text.length i
  | .ahead p, i => if ends text p i ≠ [] then [i] else []
  | .notAhead p, i => if ends text p i ≠ [] then [] else [i]
  | .notBehind test, i => if 0 < i ∧ text[i - 1]?.any test then [] else [i]
  | .boundary word, i =>
    if decide (0 < i ∧ text[i - 1]?.any word) ≠ text[i]?.any word then [i] else []
  | .start, i => if i = 0 then [i] else []
  | .stop, i => if i = text.length then [i] else []

section

attribute [local simp] ends

theorem mem_ends_unit {text : JsString} {test : UInt16 → Bool} {i j : ℕ} :
    j ∈ ends text (.unit test) i ↔ text[i]?.any test ∧ j = i + 1 := by
  by_cases htest : text[i]?.any test
  · simp [htest]
  · simp [htest]

end

/-- `pattern.test(text)`. -/
def test (p : Pattern) (text : JsString) : Bool :=
  (List.range (text.length + 1)).any fun i => ends text p i ≠ []

theorem test_iff {p : Pattern} {text : JsString} :
    p.test text ↔ ∃ i j, i ≤ text.length ∧ j ∈ ends text p i := by
  simp only [test, List.any_eq_true, List.mem_range, decide_eq_true_eq, Nat.lt_succ_iff]
  constructor
  · rintro ⟨i, hi, hne⟩
    obtain ⟨j, hj⟩ := List.exists_mem_of_ne_nil _ hne
    exact ⟨i, j, hi, hj⟩
  · rintro ⟨i, j, hi, hj⟩
    exact ⟨i, hi, List.ne_nil_of_mem hj⟩

/-! ## The usual abbreviations -/

def char (c : Char) : Pattern := .unit (· = JsString.unit c)

/-- One of some characters. -/
def oneOf (s : String) : Pattern := .unit (· ∈ ofString s)

/-- None of some characters. -/
def noneOf (s : String) : Pattern := .unit (· ∉ ofString s)

def literal : JsString → Pattern
  | [] => .empty
  | u :: s => .seq (.unit (· = u)) (literal s)

def opt (p : Pattern) : Pattern := .alt p .empty

def plus (p : Pattern) : Pattern := .seq p (.star p)

/-- At most so many times. -/
def upTo (p : Pattern) : ℕ → Pattern
  | 0 => .empty
  | n + 1 => .opt (.seq p (upTo p n))

/-- So many times or more. -/
def atLeast (p : Pattern) : ℕ → Pattern
  | 0 => .star p
  | n + 1 => .seq p (atLeast p n)

def all : List Pattern → Pattern
  | [] => .empty
  | [p] => p
  | p :: ps => .seq p (all ps)

/-! ## Where matches end -/

theorem mem_rounds {step : ℕ → List ℕ} {R : ℕ → ℕ → Prop} (hrefl : ∀ i, R i i)
    (hstep : ∀ i j k, j ∈ step i → R j k → R i k) {fuel i j : ℕ} (h : j ∈ rounds step fuel i) :
    R i j := by
  induction fuel generalizing i with
  | zero =>
      rw [List.mem_singleton.mp h]
      exact hrefl i
  | succ fuel ih =>
      rw [rounds, List.mem_cons, List.mem_flatMap] at h
      rcases h with rfl | ⟨k, hk, h⟩
      · exact hrefl j
      · exact hstep i k j hk (ih h)

theorem ends_bounds {text : JsString} {p : Pattern} {i j : ℕ} (hi : i ≤ text.length)
    (h : j ∈ ends text p i) : i ≤ j ∧ j ≤ text.length := by
  induction p generalizing i j with
  | empty =>
      rw [List.mem_singleton.mp h]
      exact ⟨le_refl i, hi⟩
  | unit test =>
      rw [ends] at h
      split at h
      · next htest =>
          rw [List.mem_singleton.mp h]
          obtain ⟨u, hu, -⟩ := (Option.any_eq_true _ _).mp htest
          have := (List.getElem?_eq_some_iff.mp hu).1
          omega
      · cases h
  | seq p q ihp ihq =>
      rw [ends, List.mem_flatMap] at h
      obtain ⟨k, hk, h⟩ := h
      have hleft := ihp hi hk
      have hright := ihq hleft.2 h
      omega
  | alt p q ihp ihq =>
      rw [ends, List.mem_append] at h
      exact h.elim (ihp hi) (ihq hi)
  | star p ih =>
      exact mem_rounds (R := fun i j => i ≤ text.length → i ≤ j ∧ j ≤ text.length)
        (fun i hi => ⟨le_refl i, hi⟩)
        (fun i j k hj hjk hi => by
          have hleft := ih hi hj
          have hright := hjk hleft.2
          omega) h hi
  | ahead p | notAhead p | notBehind test | boundary word | start | stop =>
      rw [ends] at h
      split at h
      all_goals first
        | cases h; done
        | rw [List.mem_singleton.mp h]; exact ⟨le_refl i, hi⟩

theorem mem_ends_literal {text s : JsString} {i j : ℕ} :
    j ∈ ends text (literal s) i ↔ s <+: text.drop i ∧ j = i + s.length := by
  induction s generalizing i with
  | nil => simp [literal, ends]
  | cons u s ih =>
      have hdrop : u :: s <+: text.drop i ↔ text[i]? = some u ∧ s <+: text.drop (i + 1) := by
        rw [← List.head?_drop, ← List.tail_drop]
        cases text.drop i with
        | nil => simp
        | cons v rest => simp [List.cons_prefix_cons, eq_comm]
      rw [literal, ends, List.mem_flatMap]
      simp only [mem_ends_unit, ih, hdrop, List.length_cons]
      constructor
      · rintro ⟨k, ⟨hu, rfl⟩, hs, rfl⟩
        obtain ⟨v, hv, heq⟩ := (Option.any_eq_true _ _).mp hu
        obtain rfl := of_decide_eq_true heq
        exact ⟨⟨hv, hs⟩, by omega⟩
      · rintro ⟨⟨hu, hs⟩, rfl⟩
        exact ⟨i + 1, ⟨by simp [hu], rfl⟩, hs, by omega⟩

/-- Every match reaches on. -/
def nonempty : Pattern → Bool
  | .unit _ => true
  | .seq p q => nonempty p || nonempty q
  | .alt p q => nonempty p && nonempty q
  | _ => false

theorem lt_of_nonempty {text : JsString} {p : Pattern} (hp : nonempty p) {i j : ℕ}
    (hi : i ≤ text.length) (h : j ∈ ends text p i) : i < j := by
  induction p generalizing i j with
  | unit test =>
      rw [ends] at h
      split at h
      · rw [List.mem_singleton.mp h]
        exact Nat.lt_succ_self i
      · cases h
  | seq p q ihp ihq =>
      rw [ends, List.mem_flatMap] at h
      obtain ⟨k, hk, h⟩ := h
      have hleft := ends_bounds hi hk
      have hright := ends_bounds hleft.2 h
      rw [nonempty, Bool.or_eq_true] at hp
      rcases hp with hp | hp
      · have := ihp hp hi hk
        omega
      · have := ihq hp hleft.2 h
        omega
  | alt p q ihp ihq =>
      rw [nonempty, Bool.and_eq_true] at hp
      rw [ends, List.mem_append] at h
      exact h.elim (ihp hp.1 hi) (ihq hp.2 hi)
  | empty | star | ahead | notAhead | notBehind | boundary | start | stop =>
      cases hp

/-- No match that reaches on ends with a code unit. -/
def avoids (u : UInt16) : Pattern → Bool
  | .unit test => !test u
  | .seq p q => avoids u q && (nonempty q || avoids u p)
  | .alt p q => avoids u p && avoids u q
  | .star p => avoids u p
  | _ => true

theorem avoids_spec {text : JsString} {u : UInt16} {p : Pattern} (hp : avoids u p) {i j : ℕ}
    (hi : i ≤ text.length) (h : j ∈ ends text p i) : i = j ∨ text[j - 1]? ≠ some u := by
  induction p generalizing i j with
  | empty => exact .inl (List.mem_singleton.mp h).symm
  | unit test =>
      rw [ends] at h
      split at h
      · next htest =>
          rw [List.mem_singleton.mp h, Nat.add_sub_cancel]
          refine .inr fun hu => ?_
          rw [hu, Option.any_some] at htest
          rw [avoids, htest] at hp
          cases hp
      · cases h
  | seq p q ihp ihq =>
      rw [avoids, Bool.and_eq_true, Bool.or_eq_true] at hp
      rw [ends, List.mem_flatMap] at h
      obtain ⟨k, hk, h⟩ := h
      have hbounds := ends_bounds hi hk
      rcases ihq hp.1 hbounds.2 h with rfl | hq
      · rcases hp.2 with hnonempty | hp
        · exact absurd (lt_of_nonempty hnonempty hbounds.2 h) (lt_irrefl k)
        · exact ihp hp hi hk
      · exact .inr hq
  | alt p q ihp ihq =>
      rw [avoids, Bool.and_eq_true] at hp
      rw [ends, List.mem_append] at h
      exact h.elim (ihp hp.1 hi) (ihq hp.2 hi)
  | star p ih =>
      refine (mem_rounds (R := fun i j => i ≤ text.length → i = j ∨ text[j - 1]? ≠ some u)
        (fun i _ => .inl rfl) (fun i j k hj hjk hi => ?_) h) hi
      rcases hjk (ends_bounds hi hj).2 with rfl | hk
      · exact ih hp hi hj
      · exact .inr hk
  | ahead p | notAhead p | notBehind test | boundary word | start | stop =>
      rw [ends] at h
      split at h
      all_goals first
        | cases h; done
        | exact .inl (List.mem_singleton.mp h).symm

/-! ## Matches in a prefix -/

section Prefix

variable {front back : JsString} {p q : Pattern}

/-- A match in the prefix is a match in the text. -/
def Carries (front back : JsString) (p : Pattern) : Prop :=
  ∀ i j, i ≤ front.length → j ∈ ends front p i → j ∈ ends (front ++ back) p i

/-- A match from before the end of the prefix is a match in the text. -/
def CarriesBelow (front back : JsString) (p : Pattern) : Prop :=
  ∀ i j, i < front.length → j ∈ ends front p i → j ∈ ends (front ++ back) p i

/-- No match depends on what follows it. -/
def forward : Pattern → Bool
  | .empty | .unit _ | .notBehind _ | .start => true
  | .seq p q | .alt p q => forward p && forward q
  | .star p | .ahead p => forward p
  | .notAhead _ | .boundary _ | .stop => false

theorem rounds_mono {step step' : ℕ → List ℕ} {n : ℕ}
    (hstep : ∀ i j, i ≤ n → j ∈ step i → j ∈ step' i ∧ j ≤ n) {fuel fuel' : ℕ}
    (hfuel : fuel ≤ fuel') {i j : ℕ} (hi : i ≤ n) (h : j ∈ rounds step fuel i) :
    j ∈ rounds step' fuel' i := by
  induction fuel generalizing fuel' i with
  | zero =>
      rw [List.mem_singleton.mp h]
      cases fuel' with
      | zero => exact List.mem_singleton_self i
      | succ fuel' => exact List.mem_cons_self
  | succ fuel ih =>
      obtain ⟨fuel', rfl⟩ : ∃ m, fuel' = m + 1 := ⟨fuel' - 1, by omega⟩
      rw [rounds, List.mem_cons, List.mem_flatMap] at h ⊢
      rcases h with rfl | ⟨k, hk, h⟩
      · exact .inl rfl
      · obtain ⟨hk', hkn⟩ := hstep i k hi hk
        exact .inr ⟨k, hk', ih (by omega) hkn h⟩

theorem Carries.seq (hp : Carries front back p) (hq : Carries front back q) :
    Carries front back (.seq p q) := by
  intro i j hi h
  rw [ends, List.mem_flatMap] at h ⊢
  obtain ⟨k, hk, h⟩ := h
  exact ⟨k, hp i k hi hk, hq k j (ends_bounds hi hk).2 h⟩

theorem Carries.alt (hp : Carries front back p) (hq : Carries front back q) :
    Carries front back (.alt p q) := by
  intro i j hi h
  rw [ends, List.mem_append] at h ⊢
  exact h.imp (hp i j hi) (hq i j hi)

theorem Carries.ahead (hp : Carries front back p) : Carries front back (.ahead p) := by
  intro i j hi h
  rw [ends] at h ⊢
  split at h
  · next hne =>
      obtain ⟨k, hk⟩ := List.exists_mem_of_ne_nil _ hne
      rw [if_pos (List.ne_nil_of_mem (hp i k hi hk))]
      exact h
  · cases h

theorem Carries.of_forward (hp : forward p) : Carries front back p := by
  induction p with
  | empty => exact fun i j _ h => h
  | unit test =>
      intro i j hi h
      rw [ends] at h ⊢
      split at h
      · next htest =>
          obtain ⟨u, hu, -⟩ := (Option.any_eq_true _ _).mp htest
          rw [List.getElem?_append_left (List.getElem?_eq_some_iff.mp hu).1, if_pos htest]
          exact h
      · cases h
  | seq p q ihp ihq =>
      rw [forward, Bool.and_eq_true] at hp
      exact (ihp hp.1).seq (ihq hp.2)
  | alt p q ihp ihq =>
      rw [forward, Bool.and_eq_true] at hp
      exact (ihp hp.1).alt (ihq hp.2)
  | star p ih =>
      intro i j hi h
      exact rounds_mono (fun i j hi hj => ⟨ih hp i j hi hj, (ends_bounds hi hj).2⟩)
        (by rw [List.length_append]; omega) hi h
  | ahead p ih => exact (ih hp).ahead
  | notBehind test =>
      intro i j hi h
      rw [ends] at h ⊢
      split at h
      · cases h
      · next hbehind =>
          by_cases hpos : 0 < i
          · rw [List.getElem?_append_left (by omega), if_neg hbehind]
            exact h
          · rw [if_neg fun hand => hpos hand.1]
            exact h
  | start => exact fun i j _ h => h
  | notAhead | boundary | stop => cases hp

/-- A pattern, and then an assertion about what follows, where the prefix does not end with
the pattern. -/
theorem Carries.seq_below {u : UInt16} (hp : Carries front back p) (hnonempty : nonempty p)
    (havoids : avoids u p) (hlast : front[front.length - 1]? = some u)
    (hq : CarriesBelow front back q) : Carries front back (.seq p q) := by
  intro i j hi h
  rw [ends, List.mem_flatMap] at h ⊢
  obtain ⟨k, hk, h⟩ := h
  refine ⟨k, hp i k hi hk, hq k j ?_ h⟩
  have hlt := lt_of_nonempty hnonempty hi hk
  have hbounds := ends_bounds hi hk
  rcases avoids_spec havoids hi hk with rfl | hunit
  · exact absurd hlt (lt_irrefl i)
  · rcases hbounds.2.lt_or_eq with hk | hk
    · exact hk
    · rw [hk] at hunit
      exact absurd hlast hunit

/-- An assertion about what follows, before a pattern that is not empty. -/
theorem CarriesBelow.seq (hp : CarriesBelow front back p)
    (hzero : ∀ i j, j ∈ ends front p i → j = i) (hnonempty : nonempty q)
    (hq : Carries front back q) : Carries front back (.seq p q) := by
  intro i j hi h
  rw [ends, List.mem_flatMap] at h ⊢
  obtain ⟨k, hk, h⟩ := h
  obtain rfl := hzero i k hk
  have hlt := lt_of_nonempty hnonempty hi h
  have hbounds := ends_bounds hi h
  exact ⟨k, hp k k (by omega) hk, hq k j hi h⟩

theorem CarriesBelow.notAhead_unit (test : UInt16 → Bool) :
    CarriesBelow front back (.notAhead (.unit test)) := by
  intro i j hi h
  rw [ends, ends, List.getElem?_append_left hi]
  rwa [ends, ends] at h

theorem CarriesBelow.boundary (word : UInt16 → Bool) :
    CarriesBelow front back (.boundary word) := by
  intro i j hi h
  rw [ends, List.getElem?_append_left hi, List.getElem?_append_left (by omega)]
  rwa [ends] at h

/-- `(?=c|$)` -/
theorem CarriesBelow.ahead_unit_or_stop (test : UInt16 → Bool) :
    CarriesBelow front back (.ahead (.alt (.unit test) .stop)) := by
  intro i j hi h
  have hne : i ≠ front.length := by omega
  rw [ends, ends, ends, ends, if_neg hne, List.append_nil] at h
  rw [ends, ends, ends, ends, List.getElem?_append_left hi]
  by_cases hunit : front[i]?.any test
  · rw [if_pos hunit] at h ⊢
    exact h
  · rw [if_neg hunit, if_neg (not_not.mpr rfl)] at h
    cases h

theorem Carries.test (hp : Carries front back p) (h : p.test front) : p.test (front ++ back) := by
  rw [test_iff] at h ⊢
  obtain ⟨i, j, hi, hj⟩ := h
  exact ⟨i, j, by rw [List.length_append]; omega, hp i j hi hj⟩

end Prefix

end Pattern
