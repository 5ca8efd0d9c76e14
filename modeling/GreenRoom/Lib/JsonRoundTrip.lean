import GreenRoom.Lib.Json

/-!
# Written JSON reads back

`JSON.parse` is a left inverse of `JSON.stringify` on values whose objects repeat
no name, whatever the strings in them hold: lone surrogates and control characters
are escaped and unescaped again.

## Main results

* `Json.readString_quoteBody` — strings.
* `Json.parseValue_stringify` — values, with any text after them.
* `Json.parse_stringify` — whole texts.
-/

universe u

open JsString

namespace Json

variable {ν : Type u} {F : NumberFormat ν}

mutual

/-- No object inside the value repeats a name. -/
def Distinct : Json ν → Prop
  | .arr elements => DistinctElements elements
  | .obj members => (members.map Prod.fst).Nodup ∧ DistinctMembers members
  | _ => True

def DistinctElements : List (Json ν) → Prop
  | [] => True
  | v :: vs => v.Distinct ∧ DistinctElements vs

def DistinctMembers : List (JsString × Json ν) → Prop
  | [] => True
  | (_, v) :: ms => v.Distinct ∧ DistinctMembers ms

end

/-! ## Strings -/

theorem hexValue_hexDigit {n : ℕ} (h : n < 16) : hexValue (hexDigit n) = some n := by
  have hall : ∀ n, n < 16 → hexValue (hexDigit n) = some n := by decide
  exact hall n h

/-- Reading `\uXXXX`. -/
theorem readString_unicode {a b c d : UInt16} {i j k l : ℕ} (ha : hexValue a = some i)
    (hb : hexValue b = some j) (hc : hexValue c = some k) (hd : hexValue d = some l)
    (s : JsString) :
    readString (unit '\\' :: unit 'u' :: a :: b :: c :: d :: s) =
      (readString s).map fun (t, r) => ((i * 4096 + j * 256 + k * 16 + l).toUInt16 :: t, r) := by
  rw [readString.eq_def]
  simp only [if_neg (show unit '\\' ≠ unit '"' by decide), if_true, ha, hb, hc, hd]

/-- Reading a backslash and a letter. -/
theorem readString_letter {e u : UInt16} (he : e ≠ unit 'u') (hu : unescape e = some u)
    (s : JsString) :
    readString (unit '\\' :: e :: s) = (readString s).map fun (t, r) => (u :: t, r) := by
  rw [readString.eq_def]
  simp only [if_neg (show unit '\\' ≠ unit '"' by decide), if_true, if_neg he, hu]

/-- A code unit that stands for itself between quotes. -/
def Plain (u : UInt16) : Prop := u ≠ unit '"' ∧ u ≠ unit '\\' ∧ ¬ u < 32

theorem readString_plain {u : UInt16} (h : Plain u) (s : JsString) :
    readString (u :: s) = (readString s).map fun (t, r) => (u :: t, r) := by
  rw [readString.eq_def]
  simp only [if_neg h.1, if_neg h.2.1, if_neg h.2.2]

theorem plain_of_surrogate {u : UInt16} (h : isLead u || isTrail u) : Plain u := by
  have hge : 0xD800 ≤ u.toNat := by
    simp only [isLead, isTrail, Bool.or_eq_true, Bool.and_eq_true, decide_eq_true_eq,
      UInt16.le_iff_toNat_le] at h
    change (0xD800 ≤ u.toNat ∧ _) ∨ (0xDC00 ≤ u.toNat ∧ _) at h
    omega
  refine ⟨?_, ?_, ?_⟩
  · rintro rfl
    exact absurd hge (by decide)
  · rintro rfl
    exact absurd hge (by decide)
  · rw [UInt16.lt_iff_toNat_lt]
    change ¬ u.toNat < 32
    omega

theorem readString_unicodeEscape (u : UInt16) (s : JsString) :
    readString (unicodeEscape u ++ s) = (readString s).map fun (t, r) => (u :: t, r) := by
  have hu := u.toNat_lt
  have hvalue : (u.toNat / 4096 * 4096 + u.toNat / 256 % 16 * 256 + u.toNat / 16 % 16 * 16 +
      u.toNat % 16).toUInt16 = u := by
    rw [show u.toNat / 4096 * 4096 + u.toNat / 256 % 16 * 256 + u.toNat / 16 % 16 * 16 +
      u.toNat % 16 = u.toNat by omega]
    exact UInt16.ofNat_toNat
  have h := readString_unicode (hexValue_hexDigit (n := u.toNat / 4096) (by omega))
    (hexValue_hexDigit (n := u.toNat / 256 % 16) (by omega))
    (hexValue_hexDigit (n := u.toNat / 16 % 16) (by omega))
    (hexValue_hexDigit (n := u.toNat % 16) (by omega)) s
  rw [hvalue] at h
  exact h

/-- The letter of a short escape stands for the code unit it was made for. -/
theorem unescape_of_shortEscape {u letter : UInt16} (h : shortEscape u = some letter) :
    letter ≠ unit 'u' ∧ unescape letter = some u := by
  unfold shortEscape at h
  repeat' split at h
  all_goals first
    | cases h; done
    | subst u; cases h; decide

theorem shortEscape_none {u : UInt16} (h : shortEscape u = none) :
    u ≠ unit '"' ∧ u ≠ unit '\\' := by
  constructor
  · rintro rfl
    exact absurd h (by decide)
  · rintro rfl
    exact absurd h (by decide)

theorem readString_quoteUnit (u : UInt16) (s : JsString) :
    readString (quoteUnit u ++ s) = (readString s).map fun (t, r) => (u :: t, r) := by
  unfold quoteUnit
  cases hs : shortEscape u with
  | some letter =>
      obtain ⟨hne, hu⟩ := unescape_of_shortEscape hs
      exact readString_letter hne hu s
  | none =>
      by_cases hesc : (u < 32 || isLead u || isTrail u) = true
      · rw [if_pos hesc]
        exact readString_unicodeEscape u s
      · rw [if_neg hesc]
        obtain ⟨hquote, hback⟩ := shortEscape_none hs
        refine readString_plain ⟨hquote, hback, ?_⟩ s
        intro hlt
        simp [hlt] at hesc

theorem readString_quoteBody (s r : JsString) :
    readString (quoteBody s ++ unit '"' :: r) = some (s, r) := by
  have hnil : readString (unit '"' :: r) = some ([], r) := by
    rw [readString.eq_def]
    simp
  fun_induction quoteBody s with
  | case1 u v s hpair ih =>
      rw [Bool.and_eq_true] at hpair
      have hu : Plain u := plain_of_surrogate (by simp [hpair.1])
      have hv : Plain v := plain_of_surrogate (by simp [hpair.2])
      rw [List.cons_append, List.cons_append, readString_plain hu, readString_plain hv, ih]
      rfl
  | case2 u v s hpair ih =>
      rw [List.append_assoc, readString_quoteUnit, ih]
      rfl
  | case3 u =>
      rw [readString_quoteUnit, hnil]
      rfl
  | case4 => exact hnil

/-! ## Values -/

theorem skipSpace_cons {u : UInt16} (h : isJsonSpace u = false) (s : JsString) :
    skipSpace (u :: s) = u :: s := by
  rw [skipSpace, List.dropWhile_cons_of_neg (by simp [h])]

theorem isJsonSpace_of_isNumberUnit {u : UInt16} (h : isNumberUnit u) : isJsonSpace u = false := by
  by_contra hs
  rw [Bool.not_eq_false] at hs
  simp only [isJsonSpace, Bool.or_eq_true, decide_eq_true_eq] at hs
  rcases hs with ((rfl | rfl) | rfl) | rfl <;> exact absurd h (by decide)

/-- How the text of a value begins: no space, and nothing that closes or separates. -/
def Opens (u : UInt16) : Prop :=
  isJsonSpace u = false ∧ u ≠ unit ']' ∧ u ≠ unit '\x7d'

theorem opens_of_isNumberUnit {u : UInt16} (h : isNumberUnit u) : Opens u := by
  refine ⟨isJsonSpace_of_isNumberUnit h, ?_, ?_⟩
  · rintro rfl
    exact absurd h (by decide)
  · rintro rfl
    exact absurd h (by decide)

theorem stringify_cons (F : NumberFormat ν) (v : Json ν) :
    ∃ u rest, stringify F v = u :: rest ∧ Opens u := by
  cases v with
  | null => exact ⟨_, _, rfl, by decide, by decide, by decide⟩
  | bool b => cases b <;> exact ⟨_, _, rfl, by decide, by decide, by decide⟩
  | num x =>
      obtain ⟨u, rest, hx⟩ := List.exists_cons_of_ne_nil (F.print_ne_nil x)
      refine ⟨u, rest, hx, opens_of_isNumberUnit ?_⟩
      exact F.print_units x u (hx ▸ List.mem_cons_self)
  | str s => exact ⟨_, _, rfl, by decide, by decide, by decide⟩
  | arr elements =>
    exact ⟨_, _, by rw [stringify, List.cons_append], by decide, by decide, by decide⟩
  | obj members =>
    exact ⟨_, _, by rw [stringify, List.cons_append], by decide, by decide, by decide⟩

/-- Text after which a number has ended. -/
def Stops (s : JsString) : Prop := ∀ u ∈ s.head?, isNumberUnit u = false

theorem stops_nil : Stops [] := by simp [Stops]

theorem stops_cons {u : UInt16} (h : isNumberUnit u = false) (s : JsString) : Stops (u :: s) := by
  intro v hv
  rw [List.head?_cons, Option.mem_some_iff] at hv
  exact hv ▸ h

theorem takeWhile_number (x : ν) {r : JsString} (hr : Stops r) :
    (F.print x ++ r).takeWhile isNumberUnit = F.print x ∧
      (F.print x ++ r).dropWhile isNumberUnit = r := by
  have hunits := F.print_units x
  have hnil : r.takeWhile isNumberUnit = [] ∧ r.dropWhile isNumberUnit = r := by
    cases r with
    | nil => exact ⟨rfl, rfl⟩
    | cons u r =>
        have hu := hr u (by simp)
        exact ⟨by simp [hu], by simp [hu]⟩
  rw [List.takeWhile_append_of_pos hunits, List.dropWhile_append_of_pos hunits, hnil.1, hnil.2,
    List.append_nil]
  exact ⟨rfl, rfl⟩

/-- A number is not mistaken for any other value. -/
theorem parseValue_number (x : ν) {r : JsString} (hr : Stops r) (fuel : ℕ) :
    parseValue F (fuel + 1) (F.print x ++ r) = some (.num x, r) := by
  obtain ⟨u, rest, hx⟩ := List.exists_cons_of_ne_nil (F.print_ne_nil x)
  have hu : isNumberUnit u := F.print_units x u (hx ▸ List.mem_cons_self)
  have hne : ∀ c : UInt16, isNumberUnit c = false → u ≠ c := by
    rintro c hc rfl
    rw [hu] at hc
    cases hc
  obtain ⟨htake, hdrop⟩ := takeWhile_number (F := F) x hr
  rw [hx, List.cons_append] at htake hdrop ⊢
  rw [parseValue, skipSpace_cons (isJsonSpace_of_isNumberUnit hu)]
  simp only [if_neg (hne (unit '"') (by decide)), if_neg (hne (unit '[') (by decide)),
    if_neg (hne (unit '\x7b') (by decide)), if_neg (hne (unit 'n') (by decide)),
    if_neg (hne (unit 't') (by decide)), if_neg (hne (unit 'f') (by decide)), htake, hdrop]
  rw [← hx, F.read_print]
  rfl

theorem setMember_of_notMem {k : JsString} (v : Json ν) {ms : List (JsString × Json ν)}
    (h : k ∉ ms.map Prod.fst) : setMember k v ms = ms ++ [(k, v)] := by
  induction ms with
  | nil => rfl
  | cons m ms ih =>
      obtain ⟨k', v'⟩ := m
      rw [List.map_cons, List.mem_cons, not_or] at h
      rw [setMember, if_neg (Ne.symm h.1), ih h.2, List.cons_append]

/-- Without repeated names nothing has to be resolved. -/
theorem assemble_of_nodup {ms : List (JsString × Json ν)} (h : (ms.map Prod.fst).Nodup) :
    assemble ms = ms := by
  have hfold : ∀ (ms ns : List (JsString × Json ν)), ((ns ++ ms).map Prod.fst).Nodup →
      ms.foldl (fun ms m => setMember m.1 m.2 ms) ns = ns ++ ms := by
    intro ms
    induction ms with
    | nil => simp
    | cons m ms ih =>
        intro ns hns
        have hnot : m.1 ∉ ns.map Prod.fst := by
          rw [List.map_append, List.map_cons, List.nodup_append] at hns
          intro hmem
          exact hns.2.2 _ hmem _ List.mem_cons_self rfl
        rw [List.foldl_cons, setMember_of_notMem m.2 hnot, ih _ (by simpa using hns)]
        simp
  exact hfold ms [] h

theorem stringifyElements_cons (F : NumberFormat ν) (v : Json ν) (vs : List (Json ν)) :
    ∃ u rest, stringifyElements F (v :: vs) = u :: rest ∧ Opens u := by
  obtain ⟨u, rest, hv, hu⟩ := stringify_cons F v
  cases vs with
  | nil => exact ⟨u, rest, hv, hu⟩
  | cons w vs => exact ⟨u, _, by rw [stringifyElements, hv, List.cons_append], hu⟩

theorem stringifyMembers_cons (F : NumberFormat ν) (m : JsString × Json ν)
    (ms : List (JsString × Json ν)) :
    ∃ rest, stringifyMembers F (m :: ms) = unit '"' :: rest := by
  obtain ⟨k, v⟩ := m
  cases ms with
  | nil => exact ⟨_, by rw [stringifyMembers, quote, List.cons_append, List.cons_append]⟩
  | cons w ms =>
      exact ⟨_, by rw [stringifyMembers, quote, List.cons_append, List.cons_append,
        List.cons_append]⟩

/-- Reading one member, up to what follows its value. -/
theorem parseMembers_member {k : JsString} {v : Json ν} {fuel : ℕ} {r : JsString}
    (h : parseValue F fuel (stringify F v ++ r) = some (v, r)) {u : UInt16} {s : JsString}
    (hr : r = u :: s) (hu : isJsonSpace u = false) :
    parseMembers F (fuel + 1) (quote k ++ unit ':' :: (stringify F v ++ r)) =
      if u = unit ',' then (parseMembers F fuel s).map fun (ms, r) => ((k, v) :: ms, r)
      else if u = unit '\x7d' then some ([(k, v)], s)
      else none := by
  have hk := readString_quoteBody k (unit ':' :: (stringify F v ++ r))
  rw [quote, List.cons_append, List.cons_append, List.append_assoc, List.cons_append,
    List.nil_append, parseMembers, skipSpace_cons (by decide)]
  simp only [if_true, hk, skipSpace_cons (show isJsonSpace (unit ':') = false by decide), h]
  subst hr
  rw [skipSpace_cons hu]

mutual

/-- A value is read back from its text, leaving what follows it. -/
theorem parseValue_stringify : ∀ (v : Json ν), v.Distinct → ∀ (fuel : ℕ) (r : JsString),
    Stops r → 2 * (stringify F v ++ r).length < fuel →
      parseValue F fuel (stringify F v ++ r) = some (v, r)
  | _, _, 0, _, _, hfuel => absurd hfuel (Nat.not_lt_zero _)
  | .null, _, _ + 1, _, _, _ => rfl
  | .bool b, _, _ + 1, _, _, _ => by cases b <;> rfl
  | .num x, _, fuel + 1, r, hr, _ => parseValue_number x hr fuel
  | .str s, _, fuel + 1, r, _, _ => by
      have h := readString_quoteBody s r
      rw [stringify, quote, List.cons_append, List.cons_append, List.append_assoc, parseValue,
        skipSpace_cons (by decide)]
      simp only [if_true, List.cons_append, List.nil_append, h]
      rfl
  | .arr [], _, _ + 1, _, _, _ => rfl
  | .arr (v :: vs), hd, fuel + 1, r, _, hfuel => by
      rw [Distinct] at hd
      have hshape : stringify F (.arr (v :: vs)) ++ r =
          unit '[' :: (stringifyElements F (v :: vs) ++ unit ']' :: r) := by
        simp [stringify]
      rw [hshape, List.length_cons] at hfuel
      have h := parseElements_stringify v vs hd fuel r (by omega)
      obtain ⟨u, rest, hopen, hspace, hclose, -⟩ := stringifyElements_cons F v vs
      rw [hshape, parseValue, skipSpace_cons (by decide)]
      rw [hopen, List.cons_append] at h ⊢
      simp only [if_neg (show unit '[' ≠ unit '"' by decide), if_true, skipSpace_cons hspace,
        if_neg hclose, h]
      rfl
  | .obj [], _, _ + 1, _, _, _ => rfl
  | .obj ((k, v) :: ms), hd, fuel + 1, r, _, hfuel => by
      rw [Distinct] at hd
      have hshape : stringify F (.obj ((k, v) :: ms)) ++ r =
          unit '\x7b' :: (stringifyMembers F ((k, v) :: ms) ++ unit '\x7d' :: r) := by
        simp [stringify]
      rw [hshape, List.length_cons] at hfuel
      have h := parseMembers_stringify k v ms hd.2 fuel r (by omega)
      obtain ⟨rest, hopen⟩ := stringifyMembers_cons F (k, v) ms
      rw [hshape, parseValue, skipSpace_cons (by decide)]
      rw [hopen, List.cons_append] at h ⊢
      simp only [if_neg (show unit '\x7b' ≠ unit '"' by decide),
        if_neg (show unit '\x7b' ≠ unit '[' by decide), if_true,
        skipSpace_cons (show isJsonSpace (unit '"') = false by decide),
        if_neg (show unit '"' ≠ unit '\x7d' by decide), h]
      rw [Option.map_some, assemble_of_nodup hd.1]

theorem parseElements_stringify : ∀ (v : Json ν) (vs : List (Json ν)),
    DistinctElements (v :: vs) → ∀ (fuel : ℕ) (r : JsString),
      2 * (stringifyElements F (v :: vs) ++ unit ']' :: r).length + 1 < fuel →
        parseElements F fuel (stringifyElements F (v :: vs) ++ unit ']' :: r) = some (v :: vs, r)
  | _, _, _, 0, _, hfuel => absurd hfuel (Nat.not_lt_zero _)
  | v, [], hd, fuel + 1, r, hfuel => by
      rw [stringifyElements] at hfuel ⊢
      have h := parseValue_stringify v hd.1 fuel (unit ']' :: r) (stops_cons (by decide) r)
        (by omega)
      rw [parseElements, h]
      simp only [skipSpace_cons (show isJsonSpace (unit ']') = false by decide),
        if_neg (show unit ']' ≠ unit ',' by decide), if_true]
  | v, w :: vs, hd, fuel + 1, r, hfuel => by
      rw [stringifyElements, List.append_assoc, List.cons_append] at hfuel ⊢
      have h := parseValue_stringify v hd.1 fuel
        (unit ',' :: (stringifyElements F (w :: vs) ++ unit ']' :: r)) (stops_cons (by decide) _)
        (by omega)
      have hrest := parseElements_stringify w vs hd.2 fuel r (by
        simp only [List.length_append, List.length_cons] at hfuel ⊢
        omega)
      rw [parseElements, h]
      simp only [skipSpace_cons (show isJsonSpace (unit ',') = false by decide), if_true, hrest]
      rfl

theorem parseMembers_stringify : ∀ (k : JsString) (v : Json ν) (ms : List (JsString × Json ν)),
    DistinctMembers ((k, v) :: ms) → ∀ (fuel : ℕ) (r : JsString),
      2 * (stringifyMembers F ((k, v) :: ms) ++ unit '\x7d' :: r).length + 1 < fuel →
        parseMembers F fuel (stringifyMembers F ((k, v) :: ms) ++ unit '\x7d' :: r) =
          some ((k, v) :: ms, r)
  | _, _, _, _, 0, _, hfuel => absurd hfuel (Nat.not_lt_zero _)
  | k, v, [], hd, fuel + 1, r, hfuel => by
      rw [stringifyMembers, List.append_assoc, List.cons_append] at hfuel ⊢
      have h := parseValue_stringify v hd.1 fuel (unit '\x7d' :: r) (stops_cons (by decide) r) (by
        simp only [List.length_append, List.length_cons] at hfuel ⊢
        omega)
      rw [parseMembers_member h rfl (by decide), if_neg (by decide), if_pos rfl]
  | k, v, (k', v') :: ms, hd, fuel + 1, r, hfuel => by
      have hshape : stringifyMembers F ((k, v) :: (k', v') :: ms) ++ unit '\x7d' :: r =
          quote k ++ unit ':' :: (stringify F v ++
            unit ',' :: (stringifyMembers F ((k', v') :: ms) ++ unit '\x7d' :: r)) := by
        simp [stringifyMembers]
      rw [hshape] at hfuel ⊢
      simp only [List.length_append, List.length_cons] at hfuel
      have h := parseValue_stringify v hd.1 fuel
        (unit ',' :: (stringifyMembers F ((k', v') :: ms) ++ unit '\x7d' :: r))
        (stops_cons (by decide) _) (by
          simp only [List.length_append, List.length_cons]
          omega)
      have hrest := parseMembers_stringify k' v' ms hd.2 fuel r (by
        simp only [List.length_append, List.length_cons]
        omega)
      rw [parseMembers_member h rfl (by decide), if_pos rfl, hrest]
      rfl

end

/-- **Round trip**: `JSON.parse` undoes `JSON.stringify`. -/
theorem parse_stringify (F : NumberFormat ν) {v : Json ν} (h : v.Distinct) :
    parse F (stringify F v) = some v := by
  have hv := parseValue_stringify (F := F) v h (2 * (stringify F v).length + 1) [] stops_nil
    (by simp)
  rw [List.append_nil] at hv
  rw [parse, hv]
  rfl

end Json

/-! ## Fractions -/

theorem ne_e_of_mem_printInteger {x : ℤ} {u : UInt16} (hu : u ∈ printInteger x) : u ≠ unit 'e' := by
  rintro rfl
  cases x with
  | ofNat n => exact absurd (isDigit_of_mem_ofNat hu) (by decide)
  | negSucc n =>
      rcases List.mem_cons.mp hu with hu | hu
      · exact absurd hu (by decide)
      · exact absurd (isDigit_of_mem_ofNat hu) (by decide)

/-- Whole numbers as JavaScript prints them; others by their numerator and denominator. -/
def fractionFormat : NumberFormat ℚ where
  print x := printInteger x.num ++ if x.den = 1 then [] else unit 'e' :: ofNat x.den
  read s := do
    let numerator ← readInteger (s.takeWhile (· ≠ unit 'e'))
    match s.dropWhile (· ≠ unit 'e') with
    | [] => return numerator
    | _ :: rest => return numerator / (← readDigits rest)
  print_ne_nil x := List.append_ne_nil_of_left_ne_nil (integerFormat.print_ne_nil x.num) _
  print_units x u hu := by
    rcases List.mem_append.mp hu with hu | hu
    · exact integerFormat.print_units x.num u hu
    · split at hu
      · cases hu
      · rcases List.mem_cons.mp hu with rfl | hu
        · decide
        · simp [isNumberUnit, isDigit_of_mem_ofNat hu]
  read_print x := by
    have hnumerator : ∀ u ∈ printInteger x.num, decide (u ≠ unit 'e') = true := fun u hu =>
      decide_eq_true (ne_e_of_mem_printInteger hu)
    have hread : readInteger (printInteger x.num) = some x.num := integerFormat.read_print x.num
    rw [List.takeWhile_append_of_pos hnumerator, List.dropWhile_append_of_pos hnumerator]
    split
    · next hden =>
        rw [List.takeWhile_nil, List.append_nil, hread]
        exact congrArg some (Rat.coe_int_num_of_den_eq_one hden)
    · rw [List.takeWhile_cons_of_neg (by decide), List.dropWhile_cons_of_neg (by decide),
        List.append_nil, hread]
      simp only [Option.bind_eq_bind, Option.bind_some, readDigits_ofNat, pure]
      exact congrArg some (Rat.num_div_den x)
