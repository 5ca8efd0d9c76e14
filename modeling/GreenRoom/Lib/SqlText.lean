import GreenRoom.Lib.JsonOrder
import GreenRoom.Lib.Utf8
import Mathlib.Data.List.TakeWhile

/-!
# Texts in a database

SQLite stores a text in UTF-8.  What a JavaScript string becomes in a column is written with
the replacement character for a surrogate without its partner, and is read back up to the
first U+0000.  `length` ends there as well, and counts code points; `=` and `trim` take the
whole of what is stored.

## Main definitions

* `JsString.toWellFormed` — the string as UTF-8 has it.
* `JsString.sqlText` — the string a column gives back.
* `JsString.sqlEqual`, `JsString.sqlLength`, `JsString.sqlTrim` — `=`, `length(…)` and
  `trim(…)`.

## Main results

* `JsString.sqlText_eq_self_iff` — which strings are given back as they are.
* `JsString.sqlText_stringify` — JSON text is.
-/

namespace JsString

/-- What takes the place of a surrogate without its partner. -/
def replaceLone (u : UInt16) : UInt16 := if isLead u || isTrail u then 0xFFFD else u

/-- `String.prototype.toWellFormed`. -/
def toWellFormed : JsString → JsString
  | [] => []
  | [u] => [replaceLone u]
  | u :: v :: rest =>
    if isLead u && isTrail v then u :: v :: toWellFormed rest
    else replaceLone u :: toWellFormed (v :: rest)

/-- A text that has been written to a column and read back. -/
def sqlText (s : JsString) : JsString := s.toWellFormed.takeWhile (· ≠ 0)

/-- `=`, which compares what is stored. -/
def sqlEqual (s t : JsString) : Bool := s.toWellFormed = t.toWellFormed

@[simp] theorem sqlEqual_self (s : JsString) : sqlEqual s s = true := by
  simp [sqlEqual]

/-- `length(…)`: each code point has one unit that is not the second half of a pair. -/
def sqlLength (s : JsString) : ℕ := s.sqlText.countP fun u => !isTrail u

/-- `trim(…)`. -/
def sqlTrim (s : JsString) : JsString :=
  ((s.dropWhile (· = 0x20)).reverse.dropWhile (· = 0x20)).reverse

/-! ## What a column gives back -/

theorem length_toWellFormed (s : JsString) : s.toWellFormed.length = s.length := by
  fun_induction toWellFormed s with
  | case1 => rfl
  | case2 => rfl
  | case3 u v rest _ ih => simp [ih]
  | case4 u v rest _ ih => simpa using ih

theorem replaceLone_eq_self_iff {u : UInt16} :
    replaceLone u = u ↔ (isLead u || isTrail u) = false := by
  unfold replaceLone
  split
  · next h =>
      refine iff_of_false ?_ (by simp [h])
      rintro rfl
      exact absurd h (by decide)
  · next h => exact iff_of_true rfl (by simpa using h)

/-- A lead is no trail. -/
theorem isTrail_of_isLead {u : UInt16} (h : isLead u = true) : isTrail u = false := by
  simp only [isLead, isTrail, Bool.and_eq_true, Bool.and_eq_false_iff, decide_eq_true_eq,
    decide_eq_false_iff_not] at h ⊢
  left
  rw [UInt16.not_le]
  exact UInt16.lt_of_le_of_lt h.2 (by decide)

theorem toWellFormed_eq_self_iff (s : JsString) : s.toWellFormed = s ↔ isWellFormed s := by
  fun_induction toWellFormed s with
  | case1 => exact iff_of_true rfl rfl
  | case2 u =>
      rw [List.cons.injEq, replaceLone_eq_self_iff, isWellFormed]
      cases isLead u <;> cases isTrail u <;> simp
  | case3 u v rest h ih =>
      obtain ⟨hu, hv⟩ := by simpa using h
      rw [isWellFormed, if_pos hu, hv, Bool.true_and, ← ih]
      simp
  | case4 u v rest h ih =>
      rw [List.cons.injEq, ih, replaceLone_eq_self_iff, isWellFormed]
      have hlead := @isTrail_of_isLead u
      revert h hlead
      cases isLead u <;> cases isTrail u <;> cases isTrail v <;> simp

/-- A text is given back as it is if every surrogate has its partner and no unit is zero. -/
theorem sqlText_eq_self_iff (s : JsString) : s.sqlText = s ↔ isWellFormed s ∧ 0 ∉ s := by
  have hzero : (∀ u ∈ s, decide (u ≠ 0) = true) ↔ 0 ∉ s := by
    simp only [ne_eq, decide_not, Bool.not_eq_true', decide_eq_false_iff_not]
    exact ⟨fun h hmem => h 0 hmem rfl, fun h u hu hu0 => h (hu0 ▸ hu)⟩
  constructor
  · intro h
    have hlength := congrArg List.length h
    have hwhole : s.toWellFormed.takeWhile (· ≠ 0) = s.toWellFormed := by
      refine (List.takeWhile_prefix _).eq_of_length ?_
      rw [length_toWellFormed]
      exact hlength
    have hsame : s.toWellFormed = s := hwhole.symm.trans h
    refine ⟨(toWellFormed_eq_self_iff s).mp hsame, hzero.mp ?_⟩
    rw [hsame] at hwhole
    exact List.takeWhile_eq_self_iff.mp hwhole
  · rintro ⟨hformed, hnone⟩
    rw [sqlText, (toWellFormed_eq_self_iff s).mpr hformed]
    exact List.takeWhile_eq_self_iff.mpr (hzero.mpr hnone)

/-! ## Lengths -/

theorem sqlLength_le (s : JsString) : s.sqlLength ≤ s.length :=
  calc s.sqlLength ≤ s.sqlText.length := List.countP_le_length
    _ ≤ s.toWellFormed.length := (List.takeWhile_prefix _).length_le
    _ = s.length := length_toWellFormed s

/-- A text is empty for SQL if it has no unit before the first zero. -/
theorem sqlLength_pos_iff (s : JsString) : 0 < s.sqlLength ↔ s ≠ [] ∧ s.head? ≠ some 0 := by
  have hhead : ∀ (u : UInt16) (t : JsString), ∃ v rest, toWellFormed (u :: t) = v :: rest ∧
      isTrail v = false ∧ (v = 0 ↔ u = 0) := by
    have hreplaced : ∀ u, isTrail (replaceLone u) = false ∧ (replaceLone u = 0 ↔ u = 0) := by
      intro u
      unfold replaceLone
      split
      · next h =>
          refine ⟨by decide, iff_of_false (by decide) ?_⟩
          rintro rfl
          exact absurd h (by decide)
      · next h => exact ⟨by simp_all, Iff.rfl⟩
    intro u t
    cases t with
    | nil => exact ⟨replaceLone u, [], rfl, hreplaced u⟩
    | cons v t =>
        rw [toWellFormed]
        split
        · next h =>
            obtain ⟨hu, -⟩ := by simpa using h
            exact ⟨u, _, rfl, isTrail_of_isLead hu, Iff.rfl⟩
        · exact ⟨_, _, rfl, hreplaced u⟩
  cases s with
  | nil => simp [sqlLength, sqlText, toWellFormed]
  | cons u t =>
      obtain ⟨v, rest, hs, htrail, hv⟩ := hhead u t
      rw [sqlLength, sqlText, hs]
      by_cases hu : u = 0
      · simp [hv.mpr hu, hu]
      · have hv0 : v ≠ 0 := fun h => hu (hv.mp h)
        simp [hv0, hu, htrail]

/-- Units of ASCII other than zero. -/
def IsText (s : JsString) : Prop := ∀ u ∈ s, u ≠ 0 ∧ u < 0x80

theorem IsText.isWellFormed {s : JsString} (h : s.IsText) : isWellFormed s := by
  have hplain : ∀ u : UInt16, u < 0x80 → isLead u = false ∧ isTrail u = false := by
    intro u hu
    have hlow : ∀ v : UInt16, 0x80 ≤ v → ¬ v ≤ u := fun v hv hle =>
      absurd (UInt16.lt_of_le_of_lt (UInt16.le_trans hv hle) hu) (UInt16.lt_irrefl _)
    simp [isLead, isTrail, hlow 0xD800 (by decide), hlow 0xDC00 (by decide)]
  fun_induction JsString.isWellFormed s with
  | case1 => rfl
  | case2 u => simp [hplain u (h u List.mem_cons_self).2]
  | case3 u v rest hu ih => simp [(hplain u (h u List.mem_cons_self).2).1] at hu
  | case4 u v rest hu ih =>
      simp [(hplain u (h u List.mem_cons_self).2).2, ih fun w hw => h w (List.mem_cons_of_mem _ hw)]

theorem IsText.sqlText {s : JsString} (h : s.IsText) : s.sqlText = s :=
  (sqlText_eq_self_iff s).mpr ⟨h.isWellFormed, fun hmem => (h 0 hmem).1 rfl⟩

/-- Each unit of ASCII is a code point. -/
theorem IsText.sqlLength {s : JsString} (h : s.IsText) : s.sqlLength = s.length := by
  rw [JsString.sqlLength, h.sqlText, List.countP_eq_length]
  intro u hu
  have hle : ¬ (0xDC00 : UInt16) ≤ u := fun hle =>
    absurd (UInt16.lt_of_le_of_lt (UInt16.le_trans (by decide : (0x80 : UInt16) ≤ 0xDC00) hle)
      (h u hu).2) (UInt16.lt_irrefl _)
  simp [isTrail, hle]

/-! ## White space -/

/-- What `trim` leaves as it is, `trim(…)` does. -/
theorem sqlTrim_of_trim {s : JsString} (h : trim s = s) : s.sqlTrim = s := by
  have hspace : ∀ u : UInt16, ¬ isSpace u → ¬ decide (u = 0x20) := by
    intro u hu hcontra
    obtain rfl : u = 0x20 := by simpa using hcontra
    exact hu (by decide)
  have hfirst : s.dropWhile isSpace = s := by
    refine (List.dropWhile_suffix _).eq_of_length (Nat.le_antisymm ?_ ?_)
    · exact (List.dropWhile_suffix _).length_le
    · have hlength := congrArg List.length h
      rw [trim, List.length_reverse] at hlength
      have hle := (List.dropWhile_suffix isSpace (l := (s.dropWhile isSpace).reverse)).length_le
      rw [List.length_reverse] at hle
      omega
  have hlast : s.reverse.dropWhile isSpace = s.reverse := by
    rw [trim, hfirst] at h
    exact List.reverse_eq_iff.mp h
  have hweaken : ∀ t : JsString, t.dropWhile isSpace = t → t.dropWhile (· = 0x20) = t :=
    fun t ht => List.dropWhile_eq_self_iff.mpr fun hpos =>
      hspace _ (List.dropWhile_eq_self_iff.mp ht hpos)
  rw [sqlTrim, hweaken s hfirst, hweaken s.reverse hlast, List.reverse_reverse]

/-! ## JSON text -/

/-- What is well formed piece by piece and has no zero. -/
def Storable (s : JsString) : Prop := isWellFormed s = true ∧ 0 ∉ s

theorem isWellFormed_append (s t : JsString) (hs : isWellFormed s = true)
    (ht : isWellFormed t = true) : isWellFormed (s ++ t) = true := by
  fun_induction isWellFormed s with
  | case1 => exact ht
  | case2 u =>
      obtain ⟨hlead, htrail⟩ := by simpa using hs
      cases t with
      | nil => simp [isWellFormed, hlead, htrail]
      | cons v t => simp [isWellFormed, hlead, htrail, ht]
  | case3 u v rest hu ih =>
      obtain ⟨hv, hrest⟩ := by simpa using hs
      simp [isWellFormed, hu, hv, ih hrest]
  | case4 u v rest hu ih =>
      obtain ⟨htrail, hrest⟩ := by simpa using hs
      have := ih hrest
      rw [List.cons_append] at this
      simp [isWellFormed, hu, htrail, this]

theorem Storable.append {s t : JsString} (hs : s.Storable) (ht : t.Storable) :
    (s ++ t).Storable :=
  ⟨isWellFormed_append s t hs.1 ht.1, by simp [hs.2, ht.2]⟩

theorem IsText.storable {s : JsString} (h : s.IsText) : s.Storable :=
  ⟨h.isWellFormed, fun hmem => (h 0 hmem).1 rfl⟩

end JsString

namespace Json

open JsString

universe u

variable {ν : Type u}

/-- A text of ASCII, by its units. -/
theorem storable_of_all {s : JsString} (h : s.all fun u => u ≠ 0 && u < 0x80) : s.Storable := by
  refine IsText.storable fun u hu => ?_
  simpa using List.all_eq_true.mp h u hu

theorem storable_hexDigit {n : ℕ} (h : n < 16) : Storable [hexDigit n] := by
  have hdigits : ∀ n < 16, [hexDigit n].all fun u => u ≠ 0 && u < 0x80 := by decide
  exact storable_of_all (hdigits n h)

theorem storable_quoteUnit (u : UInt16) : (quoteUnit u).Storable := by
  unfold quoteUnit
  split
  · next letter hletter =>
      have hescape : letter ∈ [unit 'b', unit 't', unit 'n', unit 'f', unit 'r', unit '"',
          unit '\\'] := by
        revert hletter
        unfold shortEscape
        repeat' split
        all_goals simp (disch := decide) only [Option.some.injEq, reduceCtorEq, List.mem_cons,
          List.not_mem_nil, or_false, IsEmpty.forall_iff]
        all_goals rintro rfl
        all_goals decide
      have hall : ([unit 'b', unit 't', unit 'n', unit 'f', unit 'r', unit '"',
          unit '\\'] : JsString).all (fun letter =>
            ([unit '\\', letter] : JsString).all fun u => u ≠ 0 && u < 0x80) = true := by
        decide
      exact storable_of_all (List.all_eq_true.mp hall letter hescape)
  · split
    · have hopen : Storable [unit '\\', unit 'u'] := storable_of_all (by decide)
      have hlt := u.toNat_lt
      exact ((((hopen.append (storable_hexDigit (n := u.toNat / 4096) (by omega))).append
        (storable_hexDigit (n := u.toNat / 256 % 16) (by omega))).append
        (storable_hexDigit (n := u.toNat / 16 % 16) (by omega))).append
        (storable_hexDigit (n := u.toNat % 16) (by omega)))
    · next hplain =>
        simp only [Bool.or_eq_true, decide_eq_true_eq, not_or, Bool.not_eq_true] at hplain
        obtain ⟨⟨hlow, hlead⟩, htrail⟩ := hplain
        refine ⟨by simp [isWellFormed, hlead, htrail], fun hmem => hlow ?_⟩
        rw [← List.mem_singleton.mp hmem]
        decide

theorem storable_quoteBody (s : JsString) : (quoteBody s).Storable := by
  fun_induction quoteBody s with
  | case1 u v s h ih =>
      obtain ⟨hu, hv⟩ := by simpa using h
      refine ⟨by simp [isWellFormed, hu, hv, ih.1], fun hmem => ?_⟩
      rcases List.mem_cons.mp hmem with rfl | hmem
      · exact absurd hu (by decide)
      · rcases List.mem_cons.mp hmem with rfl | hmem
        · exact absurd hv (by decide)
        · exact ih.2 hmem
  | case2 u v s h ih => exact (storable_quoteUnit u).append ih
  | case3 u => exact storable_quoteUnit u
  | case4 => exact ⟨rfl, List.not_mem_nil⟩

theorem storable_quote (s : JsString) : (quote s).Storable := by
  have hmark : Storable [unit '"'] := storable_of_all (by decide)
  exact (hmark.append (storable_quoteBody s)).append hmark

theorem storable_print (F : NumberFormat ν) (x : ν) : (F.print x).Storable := by
  have hunits : ∀ u : UInt16, isNumberUnit u → u ≠ 0 ∧ u < 0x80 := by
    intro u hu
    have hle : u ≤ 0x65 := by
      simp only [isNumberUnit, isDigit, Bool.or_eq_true, Bool.and_eq_true, decide_eq_true_eq] at hu
      rcases hu with ((((⟨-, hu⟩ | rfl) | rfl) | rfl) | rfl) | rfl
      · exact UInt16.le_trans hu (by decide)
      all_goals decide
    refine ⟨?_, UInt16.lt_of_le_of_lt hle (by decide)⟩
    rintro rfl
    exact absurd hu (by decide)
  exact IsText.storable fun u hu => hunits u (F.print_units x u hu)

mutual

/-- JSON text may be stored: what could not be is escaped in it. -/
theorem storable_stringify (F : NumberFormat ν) : (v : Json ν) → (stringify F v).Storable
  | .null => storable_of_all (s := ofString "null") (by decide)
  | .bool true => storable_of_all (s := ofString "true") (by decide)
  | .bool false => storable_of_all (s := ofString "false") (by decide)
  | .num x => storable_print F x
  | .str s => storable_quote s
  | .arr elements =>
      (storable_of_all (s := [unit '[']) (by decide)).append (storable_stringifyElements F elements)
        |>.append (storable_of_all (s := [unit ']']) (by decide))
  | .obj members =>
      (storable_of_all (s := [unit '\x7b']) (by decide)).append
        (storable_stringifyMembers F members)
        |>.append (storable_of_all (s := [unit '\x7d']) (by decide))

theorem storable_stringifyElements (F : NumberFormat ν) :
    (vs : List (Json ν)) → (stringifyElements F vs).Storable
  | [] => storable_of_all rfl
  | [v] => storable_stringify F v
  | v :: w :: vs =>
      (storable_stringify F v).append ((storable_of_all (s := [unit ',']) (by decide)).append
        (storable_stringifyElements F (w :: vs)))

theorem storable_stringifyMembers (F : NumberFormat ν) :
    (ms : List (JsString × Json ν)) → (stringifyMembers F ms).Storable
  | [] => storable_of_all rfl
  | [(k, v)] =>
      (storable_quote k).append ((storable_of_all (s := [unit ':']) (by decide)).append
        (storable_stringify F v))
  | (k, v) :: m :: ms =>
      ((storable_quote k).append ((storable_of_all (s := [unit ':']) (by decide)).append
        (storable_stringify F v))).append ((storable_of_all (s := [unit ',']) (by decide)).append
        (storable_stringifyMembers F (m :: ms)))

end

/-- JSON text is given back as it is. -/
theorem sqlText_stringify (F : NumberFormat ν) (v : Json ν) :
    (stringify F v).sqlText = stringify F v :=
  (sqlText_eq_self_iff _).mpr (storable_stringify F v)

/-! ## How long JSON text is -/

mutual

/-- A bound on the length of a text, from the lengths of its numbers. -/
def textBound (f : ν → ℕ) : Json ν → ℕ
  | .null => 4
  | .bool _ => 5
  | .num x => f x
  | .str s => 6 * s.length + 2
  | .arr elements => 2 + textBoundElements f elements
  | .obj members => 2 + textBoundMembers f members

def textBoundElements (f : ν → ℕ) : List (Json ν) → ℕ
  | [] => 0
  | v :: vs => textBound f v + 1 + textBoundElements f vs

def textBoundMembers (f : ν → ℕ) : List (JsString × Json ν) → ℕ
  | [] => 0
  | (k, v) :: ms => 6 * k.length + 4 + textBound f v + textBoundMembers f ms

end

theorem length_quoteUnit_le (u : UInt16) : (quoteUnit u).length ≤ 6 := by
  unfold quoteUnit
  split
  · simp
  · split <;> simp [unicodeEscape]

theorem length_quote_le (s : JsString) : (quote s).length ≤ 6 * s.length + 2 := by
  have hbody : (quoteBody s).length ≤ 6 * s.length := by
    fun_induction quoteBody s with
    | case1 u v s _ ih =>
        simp only [List.length_cons]
        omega
    | case2 u v s _ ih =>
        have := length_quoteUnit_le u
        simp only [List.length_append, List.length_cons] at ih ⊢
        omega
    | case3 u => exact length_quoteUnit_le u
    | case4 => exact le_rfl
  simp only [quote, List.length_append, List.length_cons, List.length_nil]
  omega

mutual

theorem length_stringify_le (F : NumberFormat ν) : (v : Json ν) →
    (stringify F v).length ≤ textBound (fun x => (F.print x).length) v
  | .null => show (ofString "null").length ≤ 4 by decide
  | .bool true => show (ofString "true").length ≤ 5 by decide
  | .bool false => show (ofString "false").length ≤ 5 by decide
  | .num _ => le_rfl
  | .str s => length_quote_le s
  | .arr elements => by
      have := length_stringifyElements_le F elements
      simp only [stringify, textBound, List.length_append, List.length_cons, List.length_nil]
      omega
  | .obj members => by
      have := length_stringifyMembers_le F members
      simp only [stringify, textBound, List.length_append, List.length_cons, List.length_nil]
      omega

theorem length_stringifyElements_le (F : NumberFormat ν) : (vs : List (Json ν)) →
    (stringifyElements F vs).length ≤ textBoundElements (fun x => (F.print x).length) vs
  | [] => le_rfl
  | [v] => by
      have := length_stringify_le F v
      simp only [stringifyElements, textBoundElements]
      omega
  | v :: w :: vs => by
      have := length_stringify_le F v
      have := length_stringifyElements_le F (w :: vs)
      rw [stringifyElements, textBoundElements]
      simp only [List.length_append, List.length_cons]
      omega

theorem length_stringifyMembers_le (F : NumberFormat ν) : (ms : List (JsString × Json ν)) →
    (stringifyMembers F ms).length ≤ textBoundMembers (fun x => (F.print x).length) ms
  | [] => le_rfl
  | [(k, v)] => by
      have := length_quote_le k
      have := length_stringify_le F v
      simp only [stringifyMembers, textBoundMembers, List.length_append, List.length_cons]
      omega
  | (k, v) :: m :: ms => by
      have := length_quote_le k
      have := length_stringify_le F v
      have := length_stringifyMembers_le F (m :: ms)
      rw [stringifyMembers, textBoundMembers]
      simp only [List.length_append, List.length_cons]
      omega

end

theorem textBoundMembers_perm (f : ν → ℕ) {ms ns : List (JsString × Json ν)} (h : ms.Perm ns) :
    textBoundMembers f ms = textBoundMembers f ns := by
  induction h with
  | nil => rfl
  | cons m _ ih => rw [textBoundMembers, textBoundMembers, ih]
  | swap m n ms =>
      simp only [textBoundMembers]
      omega
  | trans _ _ ih ih' => exact ih.trans ih'

mutual

/-- The order of members does not matter to the bound. -/
theorem textBound_sorted (f : ν → ℕ) : (v : Json ν) → textBound f v.sorted = textBound f v
  | .null | .bool _ | .num _ | .str _ => rfl
  | .arr elements => by rw [sorted, textBound, textBoundElements_sorted f elements, textBound]
  | .obj members => by
      rw [sorted, textBound, textBoundMembers_perm f (byName_perm _),
        textBoundMembers_sorted f members, textBound]

theorem textBoundElements_sorted (f : ν → ℕ) : (vs : List (Json ν)) →
    textBoundElements f (sortedElements vs) = textBoundElements f vs
  | [] => rfl
  | v :: vs => by
      rw [sortedElements, textBoundElements, textBound_sorted f v, textBoundElements_sorted f vs,
        textBoundElements]

theorem textBoundMembers_sorted (f : ν → ℕ) : (ms : List (JsString × Json ν)) →
    textBoundMembers f (sortedMembers ms) = textBoundMembers f ms
  | [] => rfl
  | (k, v) :: ms => by
      rw [sortedMembers, textBoundMembers, textBound_sorted f v, textBoundMembers_sorted f ms,
        textBoundMembers]

end

end Json
