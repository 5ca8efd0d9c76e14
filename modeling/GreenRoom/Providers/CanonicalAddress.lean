import GreenRoom.Providers.IpAddress

/-!
# Canonical addresses

An address is its four bytes or its eight words, in whatever way it is spelled: the
canonical text is a function of them and reads back to them, and so is the number.

## Main definitions

* `Block` — a block of addresses, by its first one and the length of its prefix.
* `reservedIpv4`, `reservedIpv6`, `globalUnicast` — the blocks, by their numbers.

## Main results

* `parseIpv4_render`, `parseIpv6_render` — the canonical text reads back.
* `parseIpv4_some`, `parseIpv6_some` — what a text that is accepted stands for.
* `classifyAddress_eq_some` — what is let through.
* `address_parsing_canonical`
-/

namespace GreenRoom.Providers.IpAddress

open JsString

/-! ## Numbers -/

theorem shiftIn_append (bits : ℕ) (digits : List ℕ) (digit : ℕ) :
    shiftIn bits (digits ++ [digit]) = shiftIn bits digits <<< bits ||| digit := by
  rw [shiftIn, List.foldl_append]
  rfl

theorem shiftIn_snoc {bits digit : ℕ} (digits : List ℕ) (h : digit < 2 ^ bits) :
    shiftIn bits (digits ++ [digit]) = shiftIn bits digits * 2 ^ bits + digit := by
  rw [shiftIn_append, Nat.shiftLeft_eq, mul_comm, ← Nat.two_pow_add_eq_or_of_lt h]

/-- Digits are determined by their number. -/
theorem shiftIn_injective {bits : ℕ} {xs ys : List ℕ} (hlength : xs.length = ys.length)
    (hxs : ∀ x ∈ xs, x < 2 ^ bits) (hys : ∀ y ∈ ys, y < 2 ^ bits)
    (h : shiftIn bits xs = shiftIn bits ys) : xs = ys := by
  induction xs using List.reverseRecOn generalizing ys with
  | nil => exact (List.length_eq_zero_iff.mp hlength.symm).symm
  | append_singleton xs x ih =>
      rcases List.eq_nil_or_concat' ys with rfl | ⟨ys, y, rfl⟩
      · simp at hlength
      · have hx : x < 2 ^ bits := hxs x (by simp)
        have hy : y < 2 ^ bits := hys y (by simp)
        rw [shiftIn_snoc xs hx, shiftIn_snoc ys hy] at h
        have hpos : 0 < 2 ^ bits := Nat.two_pow_pos bits
        have hdigit : x = y := by
          have := congrArg (· % 2 ^ bits) h
          simpa [Nat.mod_eq_of_lt hx, Nat.mod_eq_of_lt hy] using this
        have hrest : shiftIn bits xs = shiftIn bits ys := by
          have := congrArg (· / 2 ^ bits) h
          simpa [Nat.add_div_of_dvd_right, Nat.mul_div_cancel _ hpos, Nat.div_eq_of_lt hx,
            Nat.div_eq_of_lt hy] using this
        rw [hdigit, ih (by simpa using hlength) (fun z hz => hxs z (by simp [hz]))
          (fun z hz => hys z (by simp [hz])) hrest]

/-! ## Four bytes -/

/-- The parts of an IPv4 address. -/
structure Bytes (parts : List ℕ) : Prop where
  length : parts.length = 4
  bounded : ∀ part ∈ parts, part < 2 ^ 8

/-- The address of four bytes. -/
def ofBytes (parts : List ℕ) : CanonicalAddress := ⟨.v4, renderIpv4 parts, shiftIn 8 parts⟩

theorem parseIpv4_some {value : JsString} {address : CanonicalAddress}
    (h : parseIpv4 value = some address) : ∃ parts, Bytes parts ∧ address = ofBytes parts := by
  rw [parseIpv4] at h
  dsimp only at h
  split at h
  · next htexts =>
      split at h
      · cases h
      · next hbounded =>
          refine ⟨_, ⟨by rw [List.length_map, htexts.1], ?_⟩, (Option.some.inj h).symm⟩
          intro part hpart
          simp only [List.any_eq_true, decide_eq_true_eq, not_exists, not_and, not_lt] at hbounded
          have := hbounded part hpart
          omega
  · cases h

theorem isDecimalPart_ofNat {n : ℕ} (h : n < 2 ^ 8) : isDecimalPart (ofNat n) = true := by
  have hall : ∀ n, n < 2 ^ 8 → isDecimalPart (ofNat n) = true := by decide +kernel
  exact hall n h

theorem parseIpv4_render {parts : List ℕ} (h : Bytes parts) :
    parseIpv4 (renderIpv4 parts) = some (ofBytes parts) := by
  have hdot : ∀ text ∈ parts.map ofNat, unit '.' ∉ text := by
    intro text htext hmem
    obtain ⟨n, -, rfl⟩ := List.mem_map.mp htext
    exact absurd (isDigit_of_mem_ofNat hmem) (by decide)
  have hsplit : (renderIpv4 parts).splitOn (unit '.') = parts.map ofNat := by
    refine List.splitOn_intercalate _ hdot ?_
    rw [Ne, List.map_eq_nil_iff]
    rintro rfl
    cases h.length
  have hvalues : (parts.map ofNat).map digitsValue = parts := by
    rw [List.map_map]
    refine (List.map_congr_left fun n _ => ?_).trans (List.map_id _)
    exact digitsValue_ofNat n
  rw [parseIpv4]
  dsimp only
  rw [hsplit, hvalues, if_pos, if_neg]
  · rfl
  · simp only [List.any_eq_true, decide_eq_true_eq, not_exists, not_and, not_lt]
    intro part hpart
    have := h.bounded part hpart
    omega
  · refine ⟨by rw [List.length_map, h.length], List.all_eq_true.mpr fun text htext => ?_⟩
    obtain ⟨n, hn, rfl⟩ := List.mem_map.mp htext
    exact isDecimalPart_ofNat (h.bounded n hn)

/-! ## Words and their texts -/

theorem hexText_eq (n : ℕ) : ∃ digits : List ℕ, hexText n = (digits.map Json.hexDigit).reverse ∧
    digits ≠ [] ∧ (∀ d ∈ digits, d < 16) ∧ Nat.ofDigits 16 digits = n ∧
    (n < 2 ^ 16 → digits.length ≤ 4) := by
  rw [hexText]
  split
  · next hzero =>
      subst hzero
      exact ⟨[0], by decide, by simp, by simp, by simp, by simp⟩
  · next hne =>
      refine ⟨Nat.digits 16 n, rfl, Nat.digits_ne_nil_iff_ne_zero.mpr hne,
        fun d hd => Nat.digits_lt_base (by omega) hd, Nat.ofDigits_digits 16 n, fun hlt => ?_⟩
      exact (Nat.digits_length_le_iff (by omega) n).mpr (by omega)

theorem hexText_ne_nil (n : ℕ) : hexText n ≠ [] := by
  obtain ⟨digits, heq, hne, -⟩ := hexText_eq n
  simpa [heq] using hne

theorem hexValue_of_mem_hexText {n : ℕ} {u : UInt16} (h : u ∈ hexText n) :
    (Json.hexValue u).isSome := by
  obtain ⟨digits, heq, -, hlt, -⟩ := hexText_eq n
  rw [heq, List.mem_reverse, List.mem_map] at h
  obtain ⟨d, hd, rfl⟩ := h
  rw [Json.hexValue_hexDigit (hlt d hd)]
  rfl

theorem colon_notMem_hexText (n : ℕ) : unit ':' ∉ hexText n := fun h =>
  absurd (hexValue_of_mem_hexText h) (by decide)

theorem mapM_hexValue {digits : List ℕ} (h : ∀ d ∈ digits, d < 16) :
    (digits.map Json.hexDigit).mapM Json.hexValue = some digits := by
  induction digits with
  | nil => rfl
  | cons d digits ih =>
      rw [List.map_cons, List.mapM_cons, Json.hexValue_hexDigit (h d List.mem_cons_self),
        ih fun e he => h e (List.mem_cons_of_mem _ he)]
      rfl

theorem parseWord_hexText {n : ℕ} (h : n < 2 ^ 16) : parseWord (hexText n) = some n := by
  obtain ⟨digits, heq, hne, hlt, hvalue, hlength⟩ := hexText_eq n
  have hpos : 1 ≤ digits.length := List.length_pos_iff.mpr hne
  have hle := hlength h
  rw [parseWord, if_pos (by rw [heq, List.length_reverse, List.length_map]; omega), heq,
    ← List.map_reverse, mapM_hexValue fun d hd => hlt d (List.mem_reverse.mp hd),
    Option.map_some, List.reverse_reverse, hvalue]

theorem mapM_parseWord {words : List ℕ} (h : ∀ word ∈ words, word < 2 ^ 16) :
    (words.map hexText).mapM parseWord = some words := by
  induction words with
  | nil => rfl
  | cons word words ih =>
      rw [List.map_cons, List.mapM_cons, parseWord_hexText (h word List.mem_cons_self),
        ih fun w hw => h w (List.mem_cons_of_mem _ hw)]
      rfl

/-- What a list of readings is made of. -/
theorem forall_of_mapM {α β : Type} {f : α → Option β} {P : β → Prop}
    (hf : ∀ a b, f a = some b → P b) {xs : List α} {ys : List β} (h : xs.mapM f = some ys) :
    ys.length = xs.length ∧ ∀ y ∈ ys, P y := by
  induction xs generalizing ys with
  | nil =>
      obtain rfl := Option.some.inj h
      exact ⟨rfl, nofun⟩
  | cons x xs ih =>
      rw [List.mapM_cons, Option.bind_eq_bind, Option.bind_eq_some_iff] at h
      obtain ⟨y, hy, h⟩ := h
      rw [Option.bind_eq_bind, Option.bind_eq_some_iff] at h
      obtain ⟨ys, hys, h⟩ := h
      obtain rfl := Option.some.inj h
      obtain ⟨hlength, hforall⟩ := ih hys
      exact ⟨by rw [List.length_cons, List.length_cons, hlength],
        List.forall_mem_cons.mpr ⟨hf x y hy, hforall⟩⟩

theorem hexValue_lt {u : UInt16} {d : ℕ} (h : Json.hexValue u = some d) : d < 16 := by
  simp only [Json.hexValue, Bool.and_eq_true, decide_eq_true_eq, UInt16.le_iff_toNat_le] at h
  split at h
  · obtain rfl := Option.some.inj h
    have : u.toNat ≤ 57 := by simp_all
    omega
  · split at h
    · obtain rfl := Option.some.inj h
      have : u.toNat ≤ 102 := by simp_all
      omega
    · split at h
      · obtain rfl := Option.some.inj h
        have : u.toNat ≤ 70 := by simp_all
        omega
      · cases h

theorem parseWord_lt {part : JsString} {word : ℕ} (h : parseWord part = some word) :
    word < 2 ^ 16 := by
  rw [parseWord] at h
  split at h
  · next hlength =>
      obtain ⟨digits, hdigits, rfl⟩ := Option.map_eq_some_iff.mp h
      obtain ⟨hcount, hlt⟩ := forall_of_mapM (fun _ _ => hexValue_lt) hdigits
      calc Nat.ofDigits 16 digits.reverse
          < 16 ^ digits.reverse.length :=
            Nat.ofDigits_lt_base_pow_length (by omega) fun d hd => hlt d (List.mem_reverse.mp hd)
        _ ≤ 16 ^ 4 := Nat.pow_le_pow_right (by omega) (by rw [List.length_reverse]; omega)
  · cases h

/-! ## Colons -/

theorem prepend_prepend (s t : JsString) (parts : List JsString) (h : parts ≠ []) :
    prepend s (prepend t parts) = prepend (s ++ t) parts := by
  cases parts with
  | nil => exact absurd rfl h
  | cons first rest => rw [prepend, prepend, prepend, List.append_assoc]

theorem splitDouble_ne_nil (s : JsString) : splitDouble s ≠ [] := by
  match s with
  | [] => simp [splitDouble]
  | [u] => simp [splitDouble]
  | u :: v :: rest =>
      rw [splitDouble]
      split
      · simp
      · cases splitDouble (v :: rest) <;> simp [prepend]

theorem splitDouble_cons {u : UInt16} (h : u ≠ unit ':') (s : JsString) :
    splitDouble (u :: s) = prepend [u] (splitDouble s) := by
  cases s with
  | nil => rfl
  | cons v s => rw [splitDouble, if_neg fun h' => h h'.1]

theorem splitDouble_append {text : JsString} (h : unit ':' ∉ text) (s : JsString) :
    splitDouble (text ++ s) = prepend text (splitDouble s) := by
  induction text with
  | nil =>
      cases hs : splitDouble s with
      | nil => exact absurd hs (splitDouble_ne_nil s)
      | cons first rest => rw [List.nil_append, hs]; rfl
  | cons u text ih =>
      rw [List.mem_cons, not_or] at h
      rw [List.cons_append, splitDouble_cons (Ne.symm h.1), ih h.2,
        prepend_prepend _ _ _ (splitDouble_ne_nil s)]
      rfl

theorem splitDouble_colon {u : UInt16} (h : u ≠ unit ':') (s : JsString) :
    splitDouble (unit ':' :: u :: s) = prepend [unit ':'] (splitDouble (u :: s)) := by
  rw [splitDouble, if_neg fun h' => h h'.2]

/-- Texts without colons, none of them empty. -/
def Parts (parts : List JsString) : Prop := ∀ part ∈ parts, part ≠ [] ∧ unit ':' ∉ part

theorem join_cons_cons (part part' : JsString) (parts : List JsString) :
    join [unit ':'] (part :: part' :: parts) =
      part ++ unit ':' :: join [unit ':'] (part' :: parts) := by
  simp [join, List.intercalate]

theorem splitDouble_join {parts : List JsString} (h : Parts parts) (s : JsString) :
    splitDouble (join [unit ':'] parts ++ s) = prepend (join [unit ':'] parts) (splitDouble s) := by
  induction parts with
  | nil => exact splitDouble_append (by simp [join]) s
  | cons part parts ih =>
      have hpart := h part List.mem_cons_self
      have hparts : Parts parts := fun p hp => h p (List.mem_cons_of_mem _ hp)
      cases parts with
      | nil =>
          have hjoin : join [unit ':'] [part] = part := by simp [join, List.intercalate]
          rw [hjoin]
          exact splitDouble_append hpart.2 s
      | cons part' parts =>
          obtain ⟨u, rest, hrest⟩ : ∃ u rest, join [unit ':'] (part' :: parts) = u :: rest ∧
              u ≠ unit ':' := by
            obtain ⟨hne, hcolon⟩ := hparts part' List.mem_cons_self
            obtain ⟨u, text, rfl⟩ := List.exists_cons_of_ne_nil hne
            rw [List.mem_cons, not_or] at hcolon
            cases parts with
            | nil => exact ⟨u, text, by simp [join, List.intercalate], Ne.symm hcolon.1⟩
            | cons part'' parts => exact ⟨u, _, join_cons_cons _ _ _, Ne.symm hcolon.1⟩
          rw [join_cons_cons, List.append_assoc, splitDouble_append hpart.2, List.cons_append,
            hrest.1, List.cons_append, splitDouble_colon hrest.2, ← List.cons_append, ← hrest.1,
            ih hparts, prepend_prepend _ _ _ (splitDouble_ne_nil s),
            prepend_prepend _ _ _ (splitDouble_ne_nil s)]
          rfl

theorem splitHalf_join {parts : List JsString} (h : Parts parts) :
    splitHalf (join [unit ':'] parts) = parts := by
  cases parts with
  | nil => rfl
  | cons part parts =>
      have hne : join [unit ':'] (part :: parts) ≠ [] := by
        cases parts with
        | nil => simpa [join, List.intercalate] using (h part List.mem_cons_self).1
        | cons part' parts =>
            rw [join_cons_cons]
            simp
      rw [splitHalf, if_neg hne]
      exact List.splitOn_intercalate _ (fun p hp => (h p hp).2) (List.cons_ne_nil _ _)

theorem parts_hexText (words : List ℕ) : Parts (words.map hexText) := by
  intro part hpart
  obtain ⟨n, -, rfl⟩ := List.mem_map.mp hpart
  exact ⟨hexText_ne_nil n, colon_notMem_hexText n⟩

/-! ## Runs of zeros -/

/-- A run of at least two zeros among the words. -/
structure ZeroRun.Among (words : List ℕ) (run : ZeroRun) : Prop where
  two : 2 ≤ run.length
  split : words = words.take run.start ++ List.replicate run.length 0 ++
    words.drop (run.start + run.length)

theorem takeWhile_zero (words : List ℕ) (index : ℕ) :
    words = words.take index ++ List.replicate ((words.drop index).takeWhile (· = 0)).length 0 ++
      words.drop (index + ((words.drop index).takeWhile (· = 0)).length) := by
  have hzeros : (words.drop index).takeWhile (· = 0) =
      List.replicate ((words.drop index).takeWhile (· = 0)).length 0 := by
    refine List.eq_replicate_iff.mpr ⟨rfl, fun w hw => ?_⟩
    simpa using List.all_eq_true.mp List.all_takeWhile w hw
  have hrest : words.drop (index + ((words.drop index).takeWhile (· = 0)).length) =
      (words.drop index).dropWhile (· = 0) := by
    rw [← List.drop_drop]
    conv_lhs => rw [← List.takeWhile_append_dropWhile (p := (· = 0)) (l := words.drop index)]
    exact List.drop_left' (by simp)
  rw [hrest, ← hzeros, List.append_assoc, List.takeWhile_append_dropWhile, List.take_append_drop]

theorem bestRun_among {words : List ℕ} {fuel index : ℕ} {best : Option ZeroRun} {run : ZeroRun}
    (hbest : ∀ run ∈ best, run.Among words) (h : bestRun words fuel index best = some run) :
    run.Among words := by
  induction fuel generalizing index best with
  | zero => exact hbest run h
  | succ fuel ih =>
      rw [bestRun] at h
      split at h
      · exact hbest run h
      · split at h
        · exact ih hbest h
        · refine ih ?_ h
          intro run hrun
          split at hrun
          · next hlonger =>
              obtain rfl := Option.some.inj hrun
              exact ⟨hlonger.2, takeWhile_zero words index⟩
          · exact hbest run hrun

/-! ## Eight words -/

/-- The words of an IPv6 address. -/
structure Words (words : List ℕ) : Prop where
  length : words.length = 8
  bounded : ∀ word ∈ words, word < 2 ^ 16

/-- The address of eight words. -/
def ofWords (words : List ℕ) : CanonicalAddress := ⟨.v6, renderIpv6 words, shiftIn 16 words⟩

theorem parseWords_some {value : JsString} {words : List ℕ} (h : parseWords value = some words) :
    Words words := by
  have hmapM : ∀ {parts : List JsString} {words : List ℕ}, parts.mapM parseWord = some words →
      words.length = parts.length ∧ ∀ word ∈ words, word < 2 ^ 16 :=
    forall_of_mapM fun _ _ => parseWord_lt
  rw [parseWords] at h
  split at h
  · cases h
  · obtain ⟨source, -, h⟩ := Option.bind_eq_some_iff.mp h
    split at h
    · next half _ =>
        dsimp only at h
        split at h
        · cases h
        · next hlength =>
            obtain ⟨hcount, hlt⟩ := hmapM h
            exact ⟨by omega, hlt⟩
    · next half half' _ =>
        dsimp only at h
        split at h
        · cases h
        · obtain ⟨before, hbefore, h⟩ := Option.bind_eq_some_iff.mp h
          obtain ⟨after, hafter, rfl⟩ := Option.map_eq_some_iff.mp h
          obtain ⟨hcount, hlt⟩ := hmapM hbefore
          obtain ⟨hcount', hlt'⟩ := hmapM hafter
          constructor
          · rw [List.length_append, List.length_append, List.length_replicate]
            omega
          · intro word hword
            rw [List.mem_append, List.mem_append, List.mem_replicate] at hword
            rcases hword with (hword | ⟨-, rfl⟩) | hword
            · exact hlt word hword
            · decide
            · exact hlt' word hword
    · cases h

theorem parseIpv6_some {value : JsString} {address : CanonicalAddress}
    (h : parseIpv6 value = some address) : ∃ words, Words words ∧ address = ofWords words := by
  obtain ⟨words, hwords, rfl⟩ := Option.map_eq_some_iff.mp h
  exact ⟨words, parseWords_some hwords, rfl⟩

theorem mem_join {separator u : UInt16} {parts : List JsString} (h : u ∈ join [separator] parts) :
    u = separator ∨ ∃ part ∈ parts, u ∈ part := by
  induction parts with
  | nil => simp [join] at h
  | cons part parts ih =>
      cases parts with
      | nil => exact .inr ⟨part, List.mem_cons_self, by simpa [join, List.intercalate] using h⟩
      | cons part' parts =>
          have hjoin : join [separator] (part :: part' :: parts) =
              part ++ separator :: join [separator] (part' :: parts) := by
            simp [join, List.intercalate]
          rw [hjoin, List.mem_append, List.mem_cons] at h
          rcases h with h | rfl | h
          · exact .inr ⟨part, List.mem_cons_self, h⟩
          · exact .inl rfl
          · exact (ih h).imp_right fun ⟨p, hp, hu⟩ => ⟨p, List.mem_cons_of_mem _ hp, hu⟩

/-- The units of a canonical text. -/
theorem mem_join_hexText {words : List ℕ} {u : UInt16}
    (h : u ∈ join [unit ':'] (words.map hexText)) : (Json.hexValue u).isSome ∨ u = unit ':' := by
  rcases mem_join h with rfl | ⟨part, hpart, hu⟩
  · exact .inr rfl
  · obtain ⟨n, -, rfl⟩ := List.mem_map.mp hpart
    exact .inl (hexValue_of_mem_hexText hu)

theorem mem_renderIpv6 {words : List ℕ} {u : UInt16} (h : u ∈ renderIpv6 words) :
    (Json.hexValue u).isSome ∨ u = unit ':' := by
  rw [renderIpv6] at h
  split at h
  · exact mem_join_hexText h
  · rw [← List.map_take, ← List.map_drop, List.mem_append, List.mem_append] at h
    rcases h with (h | h) | h
    · exact mem_join_hexText h
    · exact .inr (by simpa using h)
    · exact mem_join_hexText h

theorem notMem_renderIpv6 {words : List ℕ} {u : UInt16} (hhex : Json.hexValue u = none)
    (hcolon : u ≠ unit ':') : u ∉ renderIpv6 words := by
  intro h
  rcases mem_renderIpv6 h with h | h
  · rw [hhex] at h
    cases h
  · exact hcolon h

theorem two_le_length_renderIpv6 {words : List ℕ} (h : Words words) :
    2 ≤ (renderIpv6 words).length := by
  rw [renderIpv6]
  split
  · obtain ⟨word, word', rest, rfl⟩ : ∃ word word' rest, words = word :: word' :: rest := by
      match words, h.length with
      | word :: word' :: rest, _ => exact ⟨word, word', rest, rfl⟩
    have := List.length_pos_iff.mpr (hexText_ne_nil word)
    rw [List.map_cons, List.map_cons, join_cons_cons, List.length_append, List.length_cons]
    omega
  · simp only [List.length_append, List.length_cons, List.length_nil]
    omega

/-- **The canonical text reads back.** -/
theorem parseWords_render {words : List ℕ} (h : Words words) :
    parseWords (renderIpv6 words) = some words := by
  have hquad : withoutQuad (renderIpv6 words) = some (renderIpv6 words) :=
    if_neg (notMem_renderIpv6 (by decide) (by decide))
  have hguard : ¬ ((renderIpv6 words).length < 2 ∨ unit '%' ∈ renderIpv6 words ∨
      ¬ (renderIpv6 words).all isIpv6Unit) := by
    rw [not_or, not_or, not_lt, not_not]
    refine ⟨two_le_length_renderIpv6 h, notMem_renderIpv6 (by decide) (by decide), ?_⟩
    refine List.all_eq_true.mpr fun u hu => ?_
    rcases mem_renderIpv6 hu with hu | rfl
    · simp [isIpv6Unit, hu]
    · rfl
  rw [parseWords, if_neg hguard, hquad, Option.bind_some]
  cases hrun : bestRun words words.length 0 none with
  | none =>
      have hrender : renderIpv6 words = join [unit ':'] (words.map hexText) ++ [] := by
        rw [renderIpv6, hrun, List.append_nil]
      rw [hrender, splitDouble_join (parts_hexText words)]
      simp only [splitDouble, prepend, List.append_nil]
      rw [splitHalf_join (parts_hexText words), List.length_map, h.length]
      exact mapM_parseWord h.bounded
  | some run =>
      have hamong : run.Among words := bestRun_among (by rintro _ ⟨⟩) hrun
      have hrender : renderIpv6 words = join [unit ':'] ((words.take run.start).map hexText) ++
          unit ':' :: unit ':' ::
            (join [unit ':'] ((words.drop (run.start + run.length)).map hexText) ++ []) := by
        rw [renderIpv6, hrun, List.append_nil, List.map_take, List.map_drop]
        simp
      have hcount := congrArg List.length hamong.split
      rw [h.length, List.length_append, List.length_append, List.length_replicate] at hcount
      have htwo := hamong.two
      rw [hrender, splitDouble_join (parts_hexText _), splitDouble, if_pos ⟨rfl, rfl⟩,
        splitDouble_join (parts_hexText _)]
      simp only [splitDouble, prepend, List.append_nil]
      rw [splitHalf_join (parts_hexText _), splitHalf_join (parts_hexText _), List.length_map,
        List.length_map, if_neg (by omega),
        mapM_parseWord fun w hw => h.bounded w (List.mem_of_mem_take hw),
        mapM_parseWord fun w hw => h.bounded w (List.mem_of_mem_drop hw)]
      rw [Option.bind_some, Option.map_some]
      conv_rhs => rw [hamong.split]
      rw [show 8 - (words.take run.start).length - (words.drop (run.start + run.length)).length =
        run.length by omega]

theorem parseIpv6_render {words : List ℕ} (h : Words words) :
    parseIpv6 (renderIpv6 words) = some (ofWords words) := by
  rw [parseIpv6, parseWords_render h]
  rfl

/-- No text is an address of both families. -/
theorem parseIpv6_of_ipv4 {value : JsString} {address : CanonicalAddress}
    (h : parseIpv4 value = some address) : parseIpv6 value = none := by
  have htexts : (value.splitOn (unit '.')).length = 4 ∧
      (value.splitOn (unit '.')).all isDecimalPart := by
    rw [parseIpv4] at h
    dsimp only at h
    split at h
    · assumption
    · cases h
  have hdot : unit '.' ∈ value := by
    by_contra hdot
    have hone : ([unit '.'] : JsString).intercalate [value] = value := by simp [List.intercalate]
    have hsplit : value.splitOn (unit '.') = [value] := by
      conv_lhs => rw [← hone]
      exact List.splitOn_intercalate _ (by simpa using hdot) (List.cons_ne_nil _ _)
    rw [hsplit] at htexts
    exact absurd htexts.1 (by simp)
  have hcolon : unit ':' ∉ value := by
    intro hcolon
    have hjoin : [unit '.'].intercalate (value.splitOn (unit '.')) = value :=
      List.intercalate_splitOn _
    rw [← hjoin] at hcolon
    rcases mem_join hcolon with hcolon | ⟨part, hpart, hu⟩
    · exact absurd hcolon (by decide)
    · have hdecimal := List.all_eq_true.mp htexts.2 part hpart
      rw [isDecimalPart, Bool.or_eq_true, decide_eq_true_eq] at hdecimal
      rcases hdecimal with rfl | hdecimal
      · exact absurd hu (by decide)
      · simp only [Bool.and_eq_true] at hdecimal
        exact absurd (List.all_eq_true.mp hdecimal.1.1.1 _ hu) (by decide)
  rw [parseIpv6, parseWords, withoutQuad, if_pos hdot, if_neg hcolon]
  split <;> rfl

/-! ## Blocks -/

/-- The addresses that begin with the first `bits` bits of `base`. -/
structure Block where
  base : ℕ
  bits : ℕ
  deriving DecidableEq

def Block.Contains (width : ℕ) (block : Block) (address : ℕ) : Prop :=
  block.base ≤ address ∧ address < block.base + 2 ^ (width - block.bits)

/-- This network, private use, shared address space, loopback, link local, private use,
protocol assignments, documentation, relays, private use, benchmarking, documentation twice,
multicast and what is reserved. -/
def reservedIpv4 : List Block := [
  ⟨0x00000000, 8⟩, ⟨0x0A000000, 8⟩, ⟨0x64400000, 10⟩, ⟨0x7F000000, 8⟩,
  ⟨0xA9FE0000, 16⟩, ⟨0xAC100000, 12⟩, ⟨0xC0000000, 24⟩, ⟨0xC0000200, 24⟩,
  ⟨0xC0586300, 24⟩, ⟨0xC0A80000, 16⟩, ⟨0xC6120000, 15⟩, ⟨0xC6336400, 24⟩,
  ⟨0xCB007100, 24⟩, ⟨0xE0000000, 4⟩, ⟨0xF0000000, 4⟩]

/-- All that begins with a zero byte, the mapped IPv4 addresses among it, discard,
protocol assignments, documentation, 6to4, documentation, segment routing, unique local,
link local and multicast. -/
def reservedIpv6 : List Block := [
  ⟨0, 8⟩, ⟨0x0100 * 2 ^ 112, 64⟩, ⟨0x2001 * 2 ^ 112, 23⟩,
  ⟨0x20010db8 * 2 ^ 96, 32⟩, ⟨0x2002 * 2 ^ 112, 16⟩, ⟨0x3fff * 2 ^ 112, 20⟩,
  ⟨0x5f00 * 2 ^ 112, 16⟩, ⟨0xfc00 * 2 ^ 112, 7⟩, ⟨0xfe80 * 2 ^ 112, 10⟩,
  ⟨0xff00 * 2 ^ 112, 8⟩]

def globalUnicast : Block := ⟨0x2000 * 2 ^ 112, 3⟩

/-- Two addresses begin alike. -/
theorem shiftRight_eq_iff {k base address : ℕ} (h : 2 ^ k ∣ base) :
    address >>> k = base >>> k ↔ base ≤ address ∧ address < base + 2 ^ k := by
  obtain ⟨q, rfl⟩ := h
  have hpos : 0 < 2 ^ k := Nat.two_pow_pos k
  rw [Nat.shiftRight_eq_div_pow, Nat.shiftRight_eq_div_pow, Nat.mul_div_cancel_left _ hpos,
    Nat.div_eq_iff hpos, mul_comm q]
  omega

/-- A block of the code's list and its numbers. -/
def Denotes (parse : JsString → Option CanonicalAddress) (width : ℕ) (text : String × ℕ)
    (block : Block) : Bool :=
  (parse (ofString text.1)).map (fun parsed => (parsed.numeric, text.2)) =
      some (block.base, block.bits) &&
    block.base % 2 ^ (width - block.bits) = 0

theorem within_iff {parse : JsString → Option CanonicalAddress} {width address : ℕ}
    {text : String × ℕ} {block : Block} (h : Denotes parse width text block) :
    within parse width address text ↔ block.Contains width address := by
  simp only [Denotes, Bool.and_eq_true, decide_eq_true_eq] at h
  obtain ⟨hparse, hdvd⟩ := h
  obtain ⟨parsed, hparsed, heq⟩ := Option.map_eq_some_iff.mp hparse
  obtain ⟨hbase, hbits⟩ := Prod.mk.injEq .. ▸ heq
  rw [within, hparsed, hbits, decide_eq_true_eq, hbase]
  exact shiftRight_eq_iff (Nat.dvd_of_mod_eq_zero hdvd)

theorem any_within_iff {parse : JsString → Option CanonicalAddress} {width address : ℕ}
    {texts : List (String × ℕ)} {blocks : List Block}
    (h : List.Forall₂ (fun text block => Denotes parse width text block) texts blocks) :
    texts.any (within parse width address) ↔ ∃ block ∈ blocks, block.Contains width address := by
  induction h with
  | nil => simp
  | cons hblock _ ih => simp [within_iff hblock, ih]

theorem prohibitedIpv4_iff (address : ℕ) :
    prohibitedIpv4.any (ipv4In address) ↔ ∃ block ∈ reservedIpv4, block.Contains 32 address :=
  any_within_iff (by decide)

theorem prohibitedIpv6_iff (address : ℕ) :
    prohibitedIpv6.any (ipv6In address) ↔ ∃ block ∈ reservedIpv6, block.Contains 128 address :=
  any_within_iff (by decide)

theorem globalUnicast_iff (address : ℕ) :
    ipv6In address ("2000::", 3) ↔ globalUnicast.Contains 128 address :=
  within_iff (by decide)

/-- An address of the first family that is let through lies in no reserved block. -/
theorem classifyAddress_ipv4 {value : JsString} {address : CanonicalAddress}
    (h : parseIpv4 value = some address) (accepted : CanonicalAddress) :
    classifyAddress value = some accepted ↔
      accepted = address ∧ ∀ block ∈ reservedIpv4, ¬ block.Contains 32 address.numeric := by
  rw [classifyAddress, h]
  dsimp only
  split
  · next hblock =>
      obtain ⟨block, hmem, hcontains⟩ := (prohibitedIpv4_iff _).mp hblock
      exact ⟨nofun, fun hall => absurd hcontains (hall.2 block hmem)⟩
  · next hblock =>
      rw [prohibitedIpv4_iff] at hblock
      push Not at hblock
      exact ⟨fun heq => ⟨(Option.some.inj heq).symm, hblock⟩, fun hall => congrArg some hall.1.symm⟩

theorem classifyAddress_ipv6 {value : JsString} {address : CanonicalAddress}
    (h : parseIpv6 value = some address) (accepted : CanonicalAddress) :
    classifyAddress value = some accepted ↔
      accepted = address ∧ globalUnicast.Contains 128 address.numeric ∧
        ∀ block ∈ reservedIpv6, ¬ block.Contains 128 address.numeric := by
  have hipv4 : parseIpv4 value = none := by
    cases hparse : parseIpv4 value with
    | none => rfl
    | some address => cases (parseIpv6_of_ipv4 hparse).symm.trans h
  rw [classifyAddress, hipv4, h]
  dsimp only
  split
  · next hblock =>
      rw [Bool.or_eq_true, Bool.not_eq_true', ← Bool.not_eq_true, globalUnicast_iff,
        prohibitedIpv6_iff] at hblock
      refine ⟨nofun, fun ⟨_, hglobal, hall⟩ => ?_⟩
      rcases hblock with hblock | ⟨block, hmem, hcontains⟩
      · exact absurd hglobal hblock
      · exact absurd hcontains (hall block hmem)
  · next hblock =>
      rw [Bool.or_eq_true, Bool.not_eq_true', ← Bool.not_eq_true, globalUnicast_iff,
        prohibitedIpv6_iff] at hblock
      push Not at hblock
      exact ⟨fun heq => ⟨(Option.some.inj heq).symm, hblock⟩, fun hall => congrArg some hall.1.symm⟩

/-- **What is let through.** -/
theorem classifyAddress_eq_some {value : JsString} {address : CanonicalAddress} :
    classifyAddress value = some address ↔
      (parseIpv4 value = some address ∧
        ∀ block ∈ reservedIpv4, ¬ block.Contains 32 address.numeric) ∨
      (parseIpv6 value = some address ∧ globalUnicast.Contains 128 address.numeric ∧
        ∀ block ∈ reservedIpv6, ¬ block.Contains 128 address.numeric) := by
  cases hipv4 : parseIpv4 value with
  | some parsed =>
      rw [classifyAddress_ipv4 hipv4, parseIpv6_of_ipv4 hipv4]
      constructor
      · rintro ⟨rfl, hall⟩
        exact .inl ⟨rfl, hall⟩
      · rintro (⟨⟨⟩, hall⟩ | ⟨⟨⟩, -⟩)
        exact ⟨rfl, hall⟩
  | none =>
      cases hipv6 : parseIpv6 value with
      | none => simp [classifyAddress, hipv4, hipv6]
      | some parsed =>
          rw [classifyAddress_ipv6 hipv6]
          constructor
          · rintro ⟨rfl, hall⟩
            exact .inr ⟨rfl, hall⟩
          · rintro (⟨⟨⟩, -⟩ | ⟨⟨⟩, hall⟩)
            exact ⟨rfl, hall⟩

/-! ## One text for an address -/

theorem ofBytes_canonical_iff {parts parts' : List ℕ} (h : Bytes parts) (h' : Bytes parts') :
    (ofBytes parts).canonical = (ofBytes parts').canonical ↔
      (ofBytes parts).numeric = (ofBytes parts').numeric := by
  constructor
  · intro heq
    have hread := parseIpv4_render h
    rw [show renderIpv4 parts = renderIpv4 parts' from heq, parseIpv4_render h'] at hread
    exact congrArg CanonicalAddress.numeric (Option.some.inj hread).symm
  · intro heq
    rw [shiftIn_injective (h.length.trans h'.length.symm) h.bounded h'.bounded heq]

theorem ofWords_canonical_iff {words words' : List ℕ} (h : Words words) (h' : Words words') :
    (ofWords words).canonical = (ofWords words').canonical ↔
      (ofWords words).numeric = (ofWords words').numeric := by
  constructor
  · intro heq
    have hread := parseIpv6_render h
    rw [show renderIpv6 words = renderIpv6 words' from heq, parseIpv6_render h'] at hread
    exact congrArg CanonicalAddress.numeric (Option.some.inj hread).symm
  · intro heq
    rw [shiftIn_injective (h.length.trans h'.length.symm) h.bounded h'.bounded heq]

end GreenRoom.Providers.IpAddress
