import GreenRoom.Providers.ResponsePolicy
import Mathlib.Data.List.TakeWhile
import Mathlib.Data.List.Basic

/-!
# Bounded responses

What `boundedCompleteResponse` returns is accepted again as it is: the text that is cut at
the end of a sentence has no markup, since what follows a sentence cannot hide any, and the
loop over it goes as the loop over the longer text went.

## Main definitions

* `EndsSentence` — marks of punctuation, closing ones, and then white space or the end.

## Main results

* `normalizedPlainText_take` — a plain text cut at a sentence end is plain.
* `scan_isSome` — the loop ends.
* `scan_take` — the loop over a text that is cut where the longer one is cut.
* `bounded_response`
-/

namespace GreenRoom.Providers.ResponsePolicy

open JsString

/-! ## Markup in a prefix -/

section Markup

open Pattern

/-- What a response may end with. -/
def enders : List UInt16 :=
  [unit '.', unit '!', unit '?', 0x22, 0x27, 0x201D, 0x2019, 0xBB, 0x29, 0x7D, 0x5D]

theorem mem_enders {u : UInt16} (h : isMark u ∨ isClosing u) : u ∈ enders := by
  rcases h with h | h
  · simp only [isMark, Bool.or_eq_true, decide_eq_true_eq] at h
    rcases h with (rfl | rfl) | rfl <;> decide
  · rw [isClosing, decide_eq_true_eq] at h
    exact List.mem_append_right [unit '.', unit '!', unit '?'] h

theorem not_isSpace_of_mem_enders {u : UInt16} (h : u ∈ enders) : isSpace u = false := by
  have hall : enders.all fun u => !isSpace u := by decide
  simpa using List.all_eq_true.mp hall u h

variable {front back : JsString} {u : UInt16}

/-- A pattern and then the end of a line. -/
theorem carries_lineEnd {p : Pattern} (hforward : forward p) (hnonempty : nonempty p)
    (havoids : enders.all fun u => avoids u p) (hu : u ∈ enders)
    (hlast : front[front.length - 1]? = some u) : Carries front back (.seq p lineEnd) :=
  (Carries.of_forward hforward).seq_below hnonempty
    (List.all_eq_true.mp havoids u hu) hlast
    (CarriesBelow.ahead_unit_or_stop _)

theorem carries_emphasis {mark : Char} (hmark : u ≠ unit mark)
    (hlast : front[front.length - 1]? = some u) : Carries front back (emphasis mark) := by
  have hafter : ∀ i j, j ∈ ends front
      (.notAhead (.unit fun u => isSpace u || u = JsString.unit mark)) i → j = i := by
    intro i j h
    rw [ends] at h
    split at h
    · cases h
    · exact List.mem_singleton.mp h
  have hinside : Carries front back (.seq
      (.notAhead (.unit fun u => isSpace u || u = JsString.unit mark))
      (.all [.star (.unit fun u => u ≠ JsString.unit mark && u ≠ JsString.unit '\n'),
        .unit (!isSpace ·), .char mark])) :=
    (CarriesBelow.notAhead_unit _).seq hafter rfl (Carries.of_forward rfl)
  refine ((Carries.of_forward rfl).seq hinside).seq_below rfl ?_ hlast
    (CarriesBelow.notAhead_unit _)
  simp [avoids, nonempty, all, Pattern.char, hmark]

/-- Markup of a text that ends like a sentence is markup of every longer text. -/
theorem carries_markup (hu : u ∈ enders) (hlast : front[front.length - 1]? = some u) {p : Pattern}
    (hp : p ∈ markup) : Carries front back p := by
  have hmarks : enders.all fun u => u ≠ unit '*' && u ≠ unit '_' := by decide
  have hmark : u ≠ unit '*' ∧ u ≠ unit '_' := by simpa using List.all_eq_true.mp hmarks u hu
  have haddress : Carries front back address := by
    refine (CarriesBelow.boundary _).seq (fun i j h => ?_) rfl (Carries.of_forward rfl)
    rw [ends] at h
    split at h
    · exact List.mem_singleton.mp h
    · cases h
  simp only [markup, List.mem_cons, List.not_mem_nil, or_false] at hp
  rcases hp with rfl | rfl | rfl | rfl | rfl | rfl | rfl | rfl | rfl | rfl | rfl
  · exact Carries.of_forward rfl
  · exact Carries.of_forward rfl
  · exact Carries.of_forward rfl
  · exact carries_lineEnd rfl rfl (by decide) hu hlast
  · exact carries_lineEnd rfl rfl (by decide) hu hlast
  · exact carries_lineEnd rfl rfl (by decide) hu hlast
  · exact carries_emphasis hmark.1 hlast
  · exact carries_emphasis hmark.2 hlast
  · exact Carries.of_forward rfl
  · exact Carries.of_forward rfl
  · exact haddress

/-- Indented code is a place at the start of a line with a run of spaces or a tab. -/
def indents : List JsString := [ofString "    ", ofString "\t"]

theorem test_indentedCode (text : JsString) :
    indentedCode.test text ↔
      ∃ indent ∈ indents, indent <+: text ∨ unit '\n' :: indent <:+: text := by
  have hindent : ∀ i, (∃ j, j ∈ ends text (.alt (.seq (.literal (ofString "    "))
      (.star (.char ' '))) (.literal (ofString "\t"))) i) ↔
      ∃ indent ∈ indents, indent <+: text.drop i := by
    intro i
    simp only [indents, List.mem_cons, List.not_mem_nil, or_false, exists_eq_or_imp,
      exists_eq_left]
    constructor
    · rintro ⟨j, h⟩
      rw [ends, List.mem_append, ends, List.mem_flatMap] at h
      rcases h with ⟨k, hk, -⟩ | h
      · exact .inl (mem_ends_literal.mp hk).1
      · exact .inr (mem_ends_literal.mp h).1
    · rintro (h | h)
      · refine ⟨i + (ofString "    ").length, ?_⟩
        rw [ends, List.mem_append, ends, List.mem_flatMap]
        refine .inl ⟨_, mem_ends_literal.mpr ⟨h, rfl⟩, ?_⟩
        rw [ends]
        cases text.length <;> simp [rounds]
      · exact ⟨_, List.mem_append_right _ (mem_ends_literal.mpr ⟨h, rfl⟩)⟩
  rw [test_iff]
  constructor
  · rintro ⟨i, j, hi, h⟩
    rw [indentedCode, ends, List.mem_flatMap] at h
    obtain ⟨k, hk, h⟩ := h
    obtain ⟨indent, hmem, hfront⟩ := (hindent k).mp ⟨j, h⟩
    refine ⟨indent, hmem, ?_⟩
    rw [lineStart, ends, List.mem_append] at hk
    rcases hk with hk | hk
    · rw [ends] at hk
      split at hk
      · next hzero =>
          rw [List.mem_singleton.mp hk, hzero, List.drop_zero] at hfront
          exact .inl hfront
      · cases hk
    · obtain ⟨hnewline, rfl⟩ := mem_ends_unit.mp hk
      obtain ⟨v, hv, heq⟩ := (Option.any_eq_true _ _).mp hnewline
      have hunit : v = unit '\n' := by simpa [ofString, ofChar] using heq
      rw [← List.tail_drop] at hfront
      rw [← List.head?_drop, hunit] at hv
      have hdrop : unit '\n' :: indent <+: text.drop i := by
        rw [← List.cons_head?_tail hv]
        exact List.cons_prefix_cons.mpr ⟨rfl, hfront⟩
      exact .inr (hdrop.isInfix.trans (List.drop_suffix i text).isInfix)
  · rintro ⟨indent, hmem, hfront | ⟨before, after, hinside⟩⟩
    · obtain ⟨j, hj⟩ := (hindent 0).mpr ⟨indent, hmem, by rwa [List.drop_zero]⟩
      refine ⟨0, j, Nat.zero_le _, ?_⟩
      rw [indentedCode, ends, List.mem_flatMap]
      exact ⟨0, List.mem_append_left _ (List.mem_singleton_self 0), hj⟩
    · have hat : text.drop before.length = unit '\n' :: (indent ++ after) := by
        rw [← hinside, List.append_assoc, List.drop_left, List.cons_append]
      obtain ⟨j, hj⟩ := (hindent (before.length + 1)).mpr
        ⟨indent, hmem, by rw [← List.tail_drop, hat]; exact List.prefix_append _ _⟩
      refine ⟨before.length, j, ?_, ?_⟩
      · rw [← hinside]
        simp
      · rw [indentedCode, ends, List.mem_flatMap]
        refine ⟨before.length + 1, List.mem_append_right _ (mem_ends_unit.mpr ⟨?_, rfl⟩), hj⟩
        rw [← List.head?_drop, hat]
        rfl

end Markup

/-! ## Bold marks -/

section Marks

variable {mark : UInt16}

theorem closeMarks_some {text inside after : JsString}
    (h : closeMarks mark text = some (inside, after)) :
    text = inside ++ (mark :: mark :: after) ∧ inside.head? = text.head? ∧ inside ≠ [] ∧
      unit '\n' ∉ inside := by
  induction text generalizing inside after with
  | nil => cases h
  | cons u rest ih =>
      rw [closeMarks] at h
      split at h
      · next hclose =>
          obtain ⟨hspace, hmarks⟩ := hclose
          obtain ⟨more, hmore⟩ := List.isPrefixOf_iff_prefix.mp hmarks
          cases h
          refine ⟨by rw [← hmore]; rfl, rfl, List.cons_ne_nil _ _, fun hmem => ?_⟩
          rw [← List.mem_singleton.mp hmem] at hspace
          exact hspace (by decide)
      · split at h
        · next hgo =>
            obtain ⟨⟨inside', after'⟩, hfound, heq⟩ := Option.map_eq_some_iff.mp h
            cases heq
            obtain ⟨rfl, -, -, hnewline⟩ := ih hfound
            refine ⟨rfl, rfl, List.cons_ne_nil _ _, fun hmem => ?_⟩
            rcases List.mem_cons.mp hmem with heq | hmem
            · exact hgo.2 heq.symm
            · exact hnewline hmem
        · cases h

theorem openMarks_some {text inside after : JsString}
    (h : openMarks mark text = some (inside, after)) :
    text = mark :: mark :: inside ++ (mark :: mark :: after) ∧
      (∃ u, inside.head? = some u ∧ isSpace u = false) ∧ unit '\n' ∉ inside := by
  rw [openMarks] at h
  split at h
  · next hopen =>
      obtain ⟨hmarks, hspace⟩ := hopen
      obtain ⟨more, rfl⟩ := List.isPrefixOf_iff_prefix.mp hmarks
      obtain ⟨u, hu, hnot⟩ := (Option.any_eq_true _ _).mp hspace
      obtain ⟨hmore, hhead, -, hnewline⟩ := closeMarks_some h
      refine ⟨?_, ⟨u, hhead.trans hu, by simpa using hnot⟩, hnewline⟩
      change more = _ at hmore
      rw [hmore]
      rfl
  · cases h

theorem stripMarks_eq_self {text : JsString} (h : ¬ [mark, mark] <:+: text) (fuel : ℕ) :
    stripMarks mark fuel text = text := by
  induction fuel generalizing text with
  | zero => rfl
  | succ fuel ih =>
      cases text with
      | nil => rfl
      | cons u rest =>
          have hopen : openMarks mark (u :: rest) = none := by
            rw [openMarks, if_neg]
            rintro ⟨hmarks, -⟩
            exact h (List.isPrefixOf_iff_prefix.mp hmarks).isInfix
          have hrest : ¬ [mark, mark] <:+: rest := fun hinside =>
            h (hinside.trans (List.suffix_cons u rest).isInfix)
          rw [stripMarks, hopen]
          dsimp only
          rw [ih hrest]

/-- A text that begins with no white space. -/
def StartsPlain (text : JsString) : Prop := ∀ u, text.head? = some u → isSpace u = false

theorem StartsPlain.stripMarks {text : JsString} (h : StartsPlain text) (fuel : ℕ) :
    StartsPlain (stripMarks mark fuel text) := by
  cases fuel with
  | zero => exact h
  | succ fuel =>
      cases text with
      | nil => exact h
      | cons u rest =>
          rw [ResponsePolicy.stripMarks]
          split
          · next inside after hopen =>
              obtain ⟨-, ⟨v, hv, hspace⟩, -⟩ := openMarks_some hopen
              intro w hw
              rw [List.head?_append, hv, Option.some_or] at hw
              exact Option.some.inj hw ▸ hspace
          · exact h

/-- White space at the start of what is left was there before. -/
theorem spaces_front {text spaces : JsString} {fuel : ℕ} (hspaces : ∀ u ∈ spaces, isSpace u)
    (h : spaces <+: stripMarks mark fuel text) : spaces <+: text := by
  induction fuel generalizing text spaces with
  | zero => exact h
  | succ fuel ih =>
      cases text with
      | nil => exact h
      | cons u rest =>
          cases spaces with
          | nil => exact List.nil_prefix
          | cons v spaces =>
              rw [stripMarks] at h
              split at h
              · next inside after hopen =>
                  obtain ⟨-, ⟨w, hw, hspace⟩, -⟩ := openMarks_some hopen
                  obtain ⟨more, hmore⟩ := h
                  have hhead := congrArg List.head? hmore
                  rw [List.head?_append, List.head?_append, hw, Option.some_or] at hhead
                  have hv := hspaces v List.mem_cons_self
                  obtain rfl : v = w := Option.some.inj hhead
                  rw [hspace] at hv
                  cases hv
              · rw [List.cons_prefix_cons] at h ⊢
                exact ⟨h.1, ih (fun u hu => hspaces u (List.mem_cons_of_mem v hu)) h.2⟩

theorem infix_of_append {α : Type} {a : α} {front back l : List α} (hfront : a ∉ front)
    (h : a :: l <:+: front ++ back) : a :: l <:+: back := by
  induction front with
  | nil => exact h
  | cons b front ih =>
      rw [List.mem_cons, not_or] at hfront
      rw [List.cons_append, List.infix_cons_iff] at h
      rcases h with h | h
      · exact absurd (List.cons_prefix_cons.mp h).1 hfront.1
      · exact ih hfront.2 h

/-- So was white space at the start of a line. -/
theorem line_inside {text spaces : JsString} {fuel : ℕ} (hspaces : ∀ u ∈ spaces, isSpace u)
    (h : unit '\n' :: spaces <:+: stripMarks mark fuel text) : unit '\n' :: spaces <:+: text := by
  induction fuel generalizing text with
  | zero => exact h
  | succ fuel ih =>
      cases text with
      | nil => exact h
      | cons u rest =>
          rw [stripMarks] at h
          split at h
          · next inside after hopen =>
              obtain ⟨htext, -, hnewline⟩ := openMarks_some hopen
              rw [htext]
              exact (ih (infix_of_append hnewline h)).trans
                ⟨mark :: mark :: inside ++ [mark, mark], [], by simp⟩
          · rw [List.infix_cons_iff] at h ⊢
            refine h.imp (fun hfront => ?_) ih
            rw [List.cons_prefix_cons] at hfront ⊢
            exact ⟨hfront.1, spaces_front hspaces hfront.2⟩

end Marks

/-! ## Plain texts -/

theorem StartsPlain.dropWhile (text : JsString) : StartsPlain (text.dropWhile isSpace) := by
  intro u hu
  have := List.head?_dropWhile_not isSpace text
  rw [hu] at this
  simpa using this

theorem StartsPlain.dropWhile_eq {text : JsString} (h : StartsPlain text) :
    text.dropWhile isSpace = text := by
  cases text with
  | nil => rfl
  | cons u rest => exact List.dropWhile_cons_of_neg (by simp [h u rfl])

theorem StartsPlain.front {front text : JsString} (h : StartsPlain text) (hfront : front <+: text) :
    StartsPlain front := by
  obtain ⟨back, rfl⟩ := hfront
  intro u hu
  exact h u (by rw [List.head?_append, hu, Option.some_or])

theorem trim_front (text : JsString) : trim text <+: text.dropWhile isSpace := by
  rw [trim, ← List.reverse_suffix, List.reverse_reverse]
  exact List.dropWhile_suffix _

theorem StartsPlain.trim (text : JsString) : StartsPlain (trim text) :=
  (StartsPlain.dropWhile text).front (trim_front text)

theorem trim_inside (text : JsString) : trim text <:+: text :=
  (trim_front text).isInfix.trans (List.dropWhile_suffix _).isInfix

theorem trim_eq_self {text : JsString} {u : UInt16} (h : StartsPlain text)
    (hlast : text.getLast? = some u) (hu : isSpace u = false) : JsString.trim text = text := by
  have hreverse : StartsPlain text.reverse := by
    intro v hv
    rw [List.head?_reverse, hlast] at hv
    exact Option.some.inj hv ▸ hu
  rw [JsString.trim, h.dropWhile_eq, hreverse.dropWhile_eq, List.reverse_reverse]

theorem test_inlineMark {text : JsString} {mark : Char} (hmark : mark = '*' ∨ mark = '_')
    (h : [unit mark, unit mark] <:+: text) : inlineMark.test text := by
  obtain ⟨before, after, rfl⟩ := h
  have hdrop : [unit mark, unit mark] <+:
      (before ++ [unit mark, unit mark] ++ after).drop before.length := by
    rw [List.append_assoc, List.drop_left]
    exact List.prefix_append _ _
  refine Pattern.test_iff.mpr ⟨before.length, before.length + 2, by simp, ?_⟩
  rw [inlineMark, Pattern.ends, List.mem_append, Pattern.ends, List.mem_append]
  rcases hmark with rfl | rfl
  · exact .inr (.inl (Pattern.mem_ends_literal.mpr ⟨hdrop, rfl⟩))
  · exact .inr (.inr (Pattern.mem_ends_literal.mpr ⟨hdrop, rfl⟩))

theorem normalizedPlainText_ok {content normalized : JsString} :
    normalizedPlainText content = .ok normalized ↔
      replaceMarks '_' (replaceMarks '*' (trim content)) = normalized ∧
        (∀ p ∈ markup, ¬ p.test normalized) ∧ ¬ indentedCode.test content := by
  rw [normalizedPlainText]
  split
  · next hmarkup =>
      refine iff_of_false nofun ?_
      rintro ⟨rfl, hplain, hindented⟩
      rw [Bool.or_eq_true, List.any_eq_true] at hmarkup
      rcases hmarkup with ⟨p, hp, htest⟩ | htest
      · exact hplain p hp htest
      · exact hindented htest
  · next hmarkup =>
      rw [Bool.or_eq_true, List.any_eq_true, not_or] at hmarkup
      push Not at hmarkup
      constructor
      · intro heq
        cases heq
        exact ⟨rfl, hmarkup⟩
      · rintro ⟨rfl, -⟩
        rfl

theorem startsPlain_normalized {content normalized : JsString}
    (h : normalizedPlainText content = .ok normalized) : StartsPlain normalized := by
  obtain ⟨rfl, -⟩ := normalizedPlainText_ok.mp h
  exact ((StartsPlain.trim content).stripMarks _).stripMarks _

/-- **A plain text that is cut where a sentence ends is plain**, and stays as it is. -/
theorem normalizedPlainText_take {content normalized : JsString}
    (h : normalizedPlainText content = .ok normalized) {n : ℕ} {u : UInt16} (hu : u ∈ enders)
    (hlast : (normalized.take n).getLast? = some u) :
    normalizedPlainText (normalized.take n) = .ok (normalized.take n) := by
  have hplain := startsPlain_normalized h
  obtain ⟨hnormalized, hmarkup, hindented⟩ := normalizedPlainText_ok.mp h
  have hcut : ∀ p ∈ markup, ¬ p.test (normalized.take n) := by
    intro p hp htest
    have hat := hlast
    rw [List.getLast?_eq_getElem?] at hat
    have hcarry : Pattern.Carries (normalized.take n) (normalized.drop n) p :=
      carries_markup hu hat hp
    have hcarries := hcarry.test htest
    rw [List.take_append_drop] at hcarries
    exact hmarkup p hp hcarries
  have hstrip : ∀ mark, mark = '*' ∨ mark = '_' →
      replaceMarks mark (normalized.take n) = normalized.take n := fun mark hmark =>
    stripMarks_eq_self (fun hinside => hcut inlineMark (by simp [markup])
      (test_inlineMark hmark hinside)) _
  have htrim : trim (normalized.take n) = normalized.take n :=
    trim_eq_self (hplain.front (List.take_prefix n normalized)) hlast
      (not_isSpace_of_mem_enders hu)
  refine normalizedPlainText_ok.mpr ⟨?_, hcut, fun htest => ?_⟩
  · rw [htrim, hstrip '*' (.inl rfl), hstrip '_' (.inr rfl)]
  · -- Indented code that is left was there in the content.
    have hindents : indents.all fun indent => indent ≠ [] && indent.all isSpace := by
      decide
    have hspaces : ∀ indent ∈ indents, indent ≠ [] ∧ ∀ u ∈ indent, isSpace u := by
      intro indent hmem
      simpa using List.all_eq_true.mp hindents indent hmem
    obtain ⟨indent, hmem, hfront | hinside⟩ := (test_indentedCode _).mp htest
    · obtain ⟨hne, hall⟩ := hspaces indent hmem
      obtain ⟨v, rest, rfl⟩ := List.exists_cons_of_ne_nil hne
      obtain ⟨more, hmore⟩ := hfront.trans (List.take_prefix n normalized)
      have hhead := hplain v (by rw [← hmore]; rfl)
      rw [hall v List.mem_cons_self] at hhead
      cases hhead
    · have hall := (hspaces indent hmem).2
      refine hindented ((test_indentedCode content).mpr ⟨indent, hmem, .inr ?_⟩)
      have hnorm := hinside.trans (List.take_prefix n normalized).isInfix
      rw [← hnormalized] at hnorm
      exact (line_inside hall (line_inside hall hnorm)).trans (trim_inside content)

/-! ## Classes of code units -/

theorem le_skipWhile (test : UInt16 → Bool) (text : JsString) (i : ℕ) :
    i ≤ skipWhile test text i := Nat.le_add_right _ _

theorem skipWhile_le (test : UInt16 → Bool) {text : JsString} {i : ℕ} (hi : i ≤ text.length) :
    skipWhile test text i ≤ text.length := by
  have hfront := (List.takeWhile_prefix test (l := text.drop i)).length_le
  rw [List.length_drop] at hfront
  rw [skipWhile]
  omega

theorem any_of_skipWhile {test : UInt16 → Bool} {text : JsString} {i k : ℕ} (hi : i ≤ k)
    (hk : k < skipWhile test text i) : text[k]?.any test := by
  rw [skipWhile] at hk
  obtain ⟨d, rfl⟩ := Nat.exists_eq_add_of_le hi
  have hd : d < ((text.drop i).takeWhile test).length := by omega
  have hget := (List.takeWhile_prefix test (l := text.drop i)).getElem hd
  have htest := List.mem_takeWhile_imp (List.getElem_mem hd)
  have hlength := (List.takeWhile_prefix test (l := text.drop i)).length_le
  rw [List.length_drop] at hlength
  rw [hget, List.getElem_drop] at htest
  rw [List.getElem?_eq_getElem (by omega), Option.any_some]
  exact htest

/-- A longer text is skipped over alike, up to where it is cut. -/
theorem skipWhile_take (test : UInt16 → Bool) {text : JsString} {i n : ℕ}
    (h : skipWhile test text i ≤ n) : skipWhile test (text.take n) i = skipWhile test text i := by
  rw [skipWhile] at h ⊢
  rw [skipWhile, List.drop_take, ← List.take_takeWhile, List.length_take, min_eq_right (by omega)]

/-! ## The rounds of the loop -/

variable {isWordCharacter : UInt16 → Bool} {text : JsString} {state : Scan}

/-- Marks of punctuation, closing ones, and then white space or the end. -/
def EndsSentence (text : JsString) (n : ℕ) : Prop :=
  ∃ start middle, start < middle ∧ middle ≤ n ∧ n ≤ text.length ∧
    (∀ i, start ≤ i → i < middle → text[i]?.any isMark) ∧
    (∀ i, middle ≤ i → i < n → text[i]?.any isClosing) ∧
    (n < text.length → text[n]?.any isSpace)

/-- A sentence ends where the round has gone to. -/
structure Found (text : JsString) (state after : Scan) : Prop where
  selectedEnd : after.selectedEnd = after.index
  sentences : after.sentences = state.sentences + 1
  words : after.words = state.words
  lt : state.index < after.index
  ends : EndsSentence text after.index

/-- What a round does. -/
inductive Goes (text : JsString) (state : Scan) : Round → Prop
  | word (words : ℕ) : Goes text state (.stop { state with words := words })
  | on {after : Scan} : after.selectedEnd = state.selectedEnd → after.sentences = state.sentences →
      (after.words = state.words ∨ after.words ≤ maxResponseWords) → state.index < after.index →
      after.index ≤ text.length → Goes text state (.next after)
  | found {after : Scan} : Found text state after → after.sentences ≠ maxResponseSentences →
      Goes text state (.next after)
  | last {after : Scan} : Found text state after → after.sentences = maxResponseSentences →
      Goes text state (.stop after)

theorem markRound_goes (h : state.index < text.length) {character : UInt16}
    (hcharacter : text[state.index]? = some character) (hmark : isMark character) :
    Goes text state (markRound text { state with inWord := false } character) := by
  have hfirst : state.index < skipWhile isMark text state.index := by
    have hhead : (text.drop state.index).head? = some character := by
      rw [List.head?_drop, hcharacter]
    rw [skipWhile, ← List.cons_head?_tail hhead, List.takeWhile_cons_of_pos hmark,
      List.length_cons]
    omega
  have hmarks := skipWhile_le isMark h.le
  have hindex := skipWhile_le isClosing hmarks
  have hle := le_skipWhile isClosing text (skipWhile isMark text state.index)
  rw [markRound]
  dsimp only
  split
  · exact .on rfl rfl (.inl rfl) (by dsimp only; omega) hindex
  · next hafter =>
      split
      · exact .on rfl rfl (.inl rfl) (by dsimp only; omega) hindex
      · split
        · exact .on rfl rfl (.inl rfl) (by dsimp only; omega) hindex
        · have hends : EndsSentence text
              (skipWhile isClosing text (skipWhile isMark text state.index)) := by
            refine ⟨state.index, _, hfirst, hle, hindex, fun i => any_of_skipWhile,
              fun i => any_of_skipWhile, fun hlt => ?_⟩
            by_contra hspace
            exact hafter ⟨hlt, hspace⟩
          split
          · next hfive => exact .last ⟨rfl, rfl, rfl, by dsimp only; omega, hends⟩ hfive
          · next hfive => exact .found ⟨rfl, rfl, rfl, by dsimp only; omega, hends⟩ hfive

theorem scanStep_goes (isWordCharacter : UInt16 → Bool) (h : state.index < text.length) :
    Goes text state (scanStep isWordCharacter text state) := by
  have hcharacter : text[state.index]? = some (text.getD state.index 0) := by
    rw [List.getD_eq_getElem?_getD, List.getElem?_eq_getElem h, Option.getD_some]
  rw [scanStep]
  split
  · exact .on rfl rfl (.inl rfl) (Nat.lt_succ_self _) h
  · split
    · split
      · exact .on rfl rfl (.inl rfl) (Nat.lt_succ_self _) h
      · split
        · exact .word _
        · next hwords =>
            exact .on rfl rfl (.inr (not_lt.mp hwords)) (Nat.lt_succ_self _) h
    · split
      · exact .on rfl rfl (.inl rfl) (Nat.lt_succ_self _) h
      · split
        · exact .on rfl rfl (.inl rfl) (Nat.lt_succ_self _) h
        · next hmark => exact markRound_goes h hcharacter (not_not.mp hmark)

/-- A round goes as it went over the longer text when it stays below the cut, or finds the
sentence that ends there. -/
theorem markRound_take {n : ℕ} (hn : n ≤ text.length) (hstate : state.index < n)
    (hselected : state.selectedEnd < n) {character : UInt16}
    (h : (markRound text state character).scan.index < n ∨
      (markRound text state character).scan.index = n ∧
        (markRound text state character).scan.selectedEnd = n) :
    markRound (text.take n) state character = markRound text state character := by
  have hindex : (markRound text state character).scan.index =
      skipWhile isClosing text (skipWhile isMark text state.index) := by
    rw [markRound]
    split
    · rfl
    · split
      · rfl
      · split
        · rfl
        · dsimp only
          split <;> rfl
  have hle : skipWhile isClosing text (skipWhile isMark text state.index) ≤ n := by
    rw [hindex] at h
    rcases h with h | ⟨h, -⟩ <;> omega
  have hmarks := le_skipWhile isClosing text (skipWhile isMark text state.index)
  have hlength : (text.take n).length = n := by
    rw [List.length_take, min_eq_left hn]
  have hleft : skipWhile isMark (text.take n) state.index = skipWhile isMark text state.index :=
    skipWhile_take isMark (by omega)
  have hright := skipWhile_take isClosing hle
  have htoken : ∀ tokenStart, isNonTerminalAbbreviation (text.take n) tokenStart state.index =
      isNonTerminalAbbreviation text tokenStart state.index := by
    intro tokenStart
    rw [isNonTerminalAbbreviation, isNonTerminalAbbreviation, List.take_take,
      min_eq_left (by omega)]
  rcases hle.lt_or_eq with hlt | heq
  · have hlt' := hlt.trans_le hn
    rw [markRound, markRound]
    simp only [hleft, hright, hlength, hlt, hlt', List.getElem?_take_of_lt hlt, htoken]
  · -- The sentence ends at the cut.
    have hselect : (markRound text state character).scan.selectedEnd = n := by
      rcases h with h | ⟨-, h⟩
      · omega
      · exact h
    rw [markRound] at hselect
    rw [markRound, markRound]
    simp only [hleft, hright, hlength, heq, lt_irrefl, false_and, and_false, if_false] at hselect ⊢
    split at hselect
    · exact absurd hselect hselected.ne
    · next hspace =>
        split at hselect
        · exact absurd hselect hselected.ne
        · next habbreviation =>
            split at hselect
            · exact absurd hselect hselected.ne
            · next hwords => rw [if_neg hspace, if_neg habbreviation, if_neg hwords]

theorem scanStep_take (isWordCharacter : UInt16 → Bool) {n : ℕ} (hn : n ≤ text.length)
    (hstate : state.index < n) (hselected : state.selectedEnd < n)
    (h : (scanStep isWordCharacter text state).scan.index < n ∨
      (scanStep isWordCharacter text state).scan.index = n ∧
        (scanStep isWordCharacter text state).scan.selectedEnd = n) :
    scanStep isWordCharacter (text.take n) state = scanStep isWordCharacter text state := by
  have hcharacter : (text.take n).getD state.index 0 = text.getD state.index 0 := by
    rw [List.getD_eq_getElem?_getD, List.getD_eq_getElem?_getD, List.getElem?_take_of_lt hstate]
  rw [scanStep] at h
  rw [scanStep, scanStep, hcharacter]
  generalize text.getD state.index 0 = character at h ⊢
  split
  · rfl
  · next hspace =>
      rw [if_neg hspace] at h
      split
      · rfl
      · next hword =>
          rw [if_neg hword] at h
          by_cases hmark : isMark character
          · have hjoins : ¬ joinsWord character := by
              simp only [isMark, Bool.or_eq_true, decide_eq_true_eq] at hmark
              rcases hmark with (rfl | rfl) | rfl <;> decide
            rw [if_neg (not_not.mpr hmark), if_neg fun hand => hjoins hand.1]
            rw [if_neg (not_not.mpr hmark), if_neg fun hand => hjoins hand.1] at h
            rw [if_neg (not_not.mpr hmark), if_neg fun hand => hjoins hand.1]
            exact @markRound_take text { state with inWord := false } n hn hstate hselected _ h
          · -- What is looked at is the place the round goes to.
            have hnext : state.index + 1 < n := by
              rw [if_pos hmark] at h
              split at h
              · rcases h with h | ⟨-, h⟩
                · exact h
                · exact absurd h hselected.ne
              · rcases h with h | ⟨-, h⟩
                · exact h
                · exact absurd h hselected.ne
            rw [List.getElem?_take_of_lt hnext, if_pos hmark, if_pos hmark]

/-! ## The loop -/

/-- What holds while the loop goes on. -/
structure Going (text : JsString) (state : Scan) : Prop where
  words : state.words ≤ maxResponseWords
  sentences : state.sentences < maxResponseSentences
  selected : state.selectedEnd ≤ state.index
  index : state.index ≤ text.length
  ends : state.selectedEnd = 0 ∨ EndsSentence text state.selectedEnd

theorem going_initialScan (text : JsString) : Going text initialScan where
  words := by decide
  sentences := by decide
  selected := le_refl 0
  index := Nat.zero_le _
  ends := .inl rfl

theorem EndsSentence.le {n : ℕ} (h : EndsSentence text n) : n ≤ text.length := by
  obtain ⟨start, middle, -, -, hn, -⟩ := h
  exact hn

theorem EndsSentence.pos {n : ℕ} (h : EndsSentence text n) : 0 < n := by
  obtain ⟨start, middle, hstart, hmiddle, -⟩ := h
  omega

theorem Going.next {after : Scan} (h : Going text state) (hgoes : Goes text state (.next after)) :
    Going text after := by
  have hsentences := h.sentences
  cases hgoes with
  | on hselected hsentences' hwords hlt hindex =>
      refine ⟨?_, hsentences' ▸ h.sentences, ?_, hindex, hselected ▸ h.ends⟩
      · rcases hwords with hwords | hwords
        · exact hwords ▸ h.words
        · exact hwords
      · exact hselected ▸ h.selected.trans hlt.le
  | found hfound hmore =>
      refine ⟨hfound.words ▸ h.words, ?_, hfound.selectedEnd.le, hfound.ends.le,
        .inr (hfound.selectedEnd ▸ hfound.ends)⟩
      have := hfound.sentences
      omega

/-- **The loop ends**: every round that goes on goes further. -/
theorem scan_isSome {fuel : ℕ} (h : Going text state) (hfuel : text.length < state.index + fuel) :
    ∃ final, scan isWordCharacter text fuel state = some final := by
  induction fuel generalizing state with
  | zero =>
      have := h.index
      omega
  | succ fuel ih =>
      rw [scan]
      split
      · exact ⟨state, rfl⟩
      · next hmore =>
          have hgoes := scanStep_goes isWordCharacter (not_le.mp hmore)
          split
          · next after _ => exact ⟨after, rfl⟩
          · next after hround =>
              rw [hround] at hgoes
              have hlt : state.index < after.index := by
                cases hgoes with
                | on _ _ _ hlt _ => exact hlt
                | found hfound _ => exact hfound.lt
              exact ih (h.next hgoes) (by omega)

theorem scan_mono {fuel fuel' : ℕ} (hfuel : fuel ≤ fuel') {final : Scan}
    (h : scan isWordCharacter text fuel state = some final) :
    scan isWordCharacter text fuel' state = some final := by
  induction fuel generalizing fuel' state with
  | zero => cases h
  | succ fuel ih =>
      obtain ⟨fuel', rfl⟩ : ∃ m, fuel' = m + 1 := ⟨fuel' - 1, by omega⟩
      rw [scan] at h ⊢
      split at h
      · next hend => rw [if_pos hend, h]
      · next hmore =>
          rw [if_neg hmore]
          split at h
          · exact h
          · exact ih (by omega) h

/-- What is selected in the end was selected, or lies ahead and ends a sentence. -/
theorem scan_selected {fuel : ℕ} {final : Scan} (hgoing : Going text state)
    (h : scan isWordCharacter text fuel state = some final) :
    final.selectedEnd = state.selectedEnd ∨
      state.index < final.selectedEnd ∧ EndsSentence text final.selectedEnd := by
  induction fuel generalizing state with
  | zero => cases h
  | succ fuel ih =>
      rw [scan] at h
      split at h
      · exact .inl (congrArg Scan.selectedEnd (Option.some.inj h)).symm
      · next hmore =>
          have hgoes := scanStep_goes isWordCharacter (not_le.mp hmore)
          split at h
          · next after hround =>
              obtain rfl := Option.some.inj h
              rw [hround] at hgoes
              cases hgoes with
              | word => exact .inl rfl
              | last hfound =>
                  rw [hfound.selectedEnd]
                  exact .inr ⟨hfound.lt, hfound.ends⟩
          · next after hround =>
              rw [hround] at hgoes
              have hnext := hgoing.next hgoes
              cases hgoes with
              | on hselected _ _ hlt _ =>
                  rcases ih hnext h with heq | ⟨hahead, hends⟩
                  · exact .inl (heq.trans hselected)
                  · exact .inr ⟨hlt.trans hahead, hends⟩
              | found hfound =>
                  have hlt := hfound.lt
                  rcases ih hnext h with heq | ⟨hahead, hends⟩
                  · rw [heq, hfound.selectedEnd]
                    exact .inr ⟨hlt, hfound.ends⟩
                  · exact .inr ⟨hlt.trans hahead, hends⟩

/-- **The loop over a text cut where the longer one is cut** selects its end, within the
bounds. -/
theorem scan_take {fuel : ℕ} {final : Scan} (hgoing : Going text state)
    (hstate : state.index < final.selectedEnd)
    (h : scan isWordCharacter text fuel state = some final) :
    ∃ cut, scan isWordCharacter (text.take final.selectedEnd) fuel state = some cut ∧
      cut.selectedEnd = final.selectedEnd ∧ cut.words ≤ maxResponseWords ∧
      cut.sentences ≤ maxResponseSentences := by
  have hselected : state.selectedEnd < final.selectedEnd := hgoing.selected.trans_lt hstate
  have hends : EndsSentence text final.selectedEnd := by
    rcases scan_selected hgoing h with heq | ⟨-, hends⟩
    · exact absurd heq hselected.ne'
    · exact hends
  have hlength : (text.take final.selectedEnd).length = final.selectedEnd := by
    rw [List.length_take, min_eq_left hends.le]
  induction fuel generalizing state with
  | zero => cases h
  | succ fuel ih =>
      have hwords := hgoing.words
      have hsentences := hgoing.sentences
      have hless := hends.le
      rw [scan, if_neg (by omega)] at h
      rw [scan, if_neg (by omega)]
      have hgoes := scanStep_goes isWordCharacter
        (hstate.trans_le hless)
      have hsame := scanStep_take isWordCharacter hless hstate hselected
      split at h
      · next after hround =>
          obtain rfl := Option.some.inj h
          rw [hround] at hgoes hsame
          cases hgoes with
          | word => exact absurd hselected (lt_irrefl _)
          | last hfound hfive =>
              rw [hsame (.inr ⟨hfound.selectedEnd.symm, rfl⟩)]
              exact ⟨after, rfl, rfl, hfound.words.trans_le hwords, hfive.le⟩
      · next after hround =>
          rw [hround] at hgoes hsame
          have hnext := hgoing.next hgoes
          by_cases hhere : after.selectedEnd = final.selectedEnd
          · -- The last sentence is found; over the text that is cut nothing follows.
            cases hgoes with
            | on hselected' => exact absurd (hselected'.symm.trans hhere) hselected.ne
            | found hfound hmore =>
                have hindex : after.index = final.selectedEnd := hfound.selectedEnd.symm.trans hhere
                rw [hsame (.inr ⟨hindex, hhere⟩)]
                cases fuel with
                | zero => cases h
                | succ fuel =>
                    dsimp only
                    rw [scan, if_pos (by omega)]
                    exact ⟨after, rfl, hhere, hnext.words, hnext.sentences.le⟩
          · have hahead : after.index < final.selectedEnd := by
              rcases scan_selected hnext h with heq | ⟨hahead, -⟩
              · exact absurd heq.symm hhere
              · exact hahead
            rw [hsame (.inl hahead)]
            exact ih hnext hahead h (hnext.selected.trans_lt hahead)

/-! ## The response -/

theorem EndsSentence.last {n : ℕ} (h : EndsSentence text n) :
    ∃ u ∈ enders, (text.take n).getLast? = some u := by
  have hpos := h.pos
  obtain ⟨start, middle, hstart, hmiddle, hn, hmarks, hclosings, -⟩ := h
  have hlast : (text.take n).getLast? = text[n - 1]? := by
    rw [List.getLast?_eq_getElem?, List.length_take, min_eq_left hn,
      List.getElem?_take_of_lt (by omega)]
  rw [hlast]
  rcases hmiddle.lt_or_eq with hlt | rfl
  · obtain ⟨u, hu, hclosing⟩ :=
      (Option.any_eq_true _ _).mp (hclosings (n - 1) (by omega) (by omega))
    exact ⟨u, mem_enders (.inr hclosing), hu⟩
  · obtain ⟨u, hu, hmark⟩ :=
      (Option.any_eq_true _ _).mp (hmarks (middle - 1) (by omega) (by omega))
    exact ⟨u, mem_enders (.inl hmark), hu⟩

theorem boundedCompleteResponse_ok {content response : JsString} :
    boundedCompleteResponse isWordCharacter content = .ok response ↔
      ∃ normalized final, normalizedPlainText content = .ok normalized ∧ normalized ≠ [] ∧
        scanText isWordCharacter normalized = some final ∧ final.selectedEnd ≠ 0 ∧
        response = trim (normalized.take final.selectedEnd) := by
  rw [boundedCompleteResponse]
  cases normalizedPlainText content with
  | error failure => exact iff_of_false nofun (by simp)
  | ok normalized =>
      simp only [Except.ok.injEq, exists_and_left, exists_eq_left', List.length_eq_zero_iff,
        bind, Except.bind]
      by_cases hempty : normalized = []
      · exact iff_of_false (by simp [hempty, throw, throwThe, MonadExceptOf.throw])
          fun h => h.1 hempty
      · rw [if_neg hempty]
        cases scanText isWordCharacter normalized with
        | none => simp [hempty, throw, throwThe, MonadExceptOf.throw]
        | some final =>
            by_cases hzero : final.selectedEnd = 0
            · simp [hempty, hzero, throw, throwThe, MonadExceptOf.throw]
            · simp [hempty, hzero, pure, Except.pure, eq_comm]

theorem scanText_isSome (isWordCharacter : UInt16 → Bool) (text : JsString) :
    ∃ final, scanText isWordCharacter text = some final :=
  scan_isSome (going_initialScan text) (by omega)

/-- The loop over a text of some length goes as with more rounds to spare. -/
theorem scanText_of_scan {fuel : ℕ} {final : Scan} (hfuel : text.length + 1 ≤ fuel)
    (h : scan isWordCharacter text fuel initialScan = some final) :
    scanText isWordCharacter text = some final := by
  obtain ⟨final', hfinal'⟩ := scanText_isSome isWordCharacter text
  have hmore : scan isWordCharacter text fuel initialScan = some final' := scan_mono hfuel hfinal'
  rw [hfinal', ← hmore, h]

theorem boundedCompleteResponse_ends (isWordCharacter : UInt16 → Bool) (content : JsString) :
    boundedCompleteResponse isWordCharacter content ≠ .error .unending := by
  rw [boundedCompleteResponse]
  cases hnormalized : normalizedPlainText content with
  | error failure =>
      rw [normalizedPlainText] at hnormalized
      split at hnormalized
      · cases hnormalized
        exact nofun
      · cases hnormalized
  | ok normalized =>
      obtain ⟨final, hfinal⟩ := scanText_isSome isWordCharacter normalized
      simp only [bind, Except.bind, hfinal]
      split
      · exact nofun
      · split
        · exact nofun
        · exact nofun

/-- The function returns or throws on every text.  What it returns is a prefix of the
normalised text that is not empty and ends where a sentence does; the loop over it counts at
most five sentences and a hundred and sixty words, and the function returns it unchanged. -/
theorem bounded_response (isWordCharacter : UInt16 → Bool) :
    (∀ content, boundedCompleteResponse isWordCharacter content ≠ .error .unending) ∧
    ∀ content response, boundedCompleteResponse isWordCharacter content = .ok response →
      (∃ normalized, normalizedPlainText content = .ok normalized ∧ response <+: normalized ∧
        response ≠ [] ∧ EndsSentence normalized response.length) ∧
      (∃ final, scanText isWordCharacter response = some final ∧
        final.selectedEnd = response.length ∧ final.sentences ≤ maxResponseSentences ∧
        final.words ≤ maxResponseWords) ∧
      boundedCompleteResponse isWordCharacter response = .ok response := by
  refine ⟨boundedCompleteResponse_ends isWordCharacter, fun content response h => ?_⟩
  obtain ⟨normalized, final, hnormalized, -, hfinal, hselected, rfl⟩ :=
    boundedCompleteResponse_ok.mp h
  have hends : EndsSentence normalized final.selectedEnd := by
    rcases scan_selected (going_initialScan normalized) hfinal with hzero | ⟨-, hends⟩
    · exact absurd hzero hselected
    · exact hends
  obtain ⟨u, hu, hlast⟩ := hends.last
  have htrim : trim (normalized.take final.selectedEnd) = normalized.take final.selectedEnd :=
    trim_eq_self ((startsPlain_normalized hnormalized).front (List.take_prefix _ _)) hlast
      (not_isSpace_of_mem_enders hu)
  have hlength : (normalized.take final.selectedEnd).length = final.selectedEnd := by
    rw [List.length_take, min_eq_left hends.le]
  have hne : normalized.take final.selectedEnd ≠ [] := by
    intro hnil
    rw [hnil] at hlast
    cases hlast
  obtain ⟨cut, hcut, hcutEnd, hwords, hsentences⟩ :=
    scan_take (going_initialScan normalized) hends.pos hfinal
  have hless := hends.le
  have hscan := scanText_of_scan (by omega) hcut
  rw [htrim]
  refine ⟨⟨normalized, hnormalized, List.take_prefix _ _, hne, hlength.symm ▸ hends⟩,
    ⟨cut, hscan, hcutEnd.trans hlength.symm, hsentences, hwords⟩, ?_⟩
  refine boundedCompleteResponse_ok.mpr
    ⟨_, cut, normalizedPlainText_take hnormalized hu hlast, hne, hscan, ?_, ?_⟩
  · rw [hcutEnd]
    exact hselected
  · rw [hcutEnd, List.take_take, min_self, htrim]

/-- A text in bold, cut after its second sentence. -/
theorem bounded_response_bold :
    boundedCompleteResponse isAsciiLetter (ofString "I saw Dr. Who (\"really!\") Yes.") =
      .ok (ofString "I saw Dr. Who (\"really!\") Yes.") :=
  ((bounded_response isAsciiLetter).2
    (ofString "I saw **Dr. Who** (\"really!\") Yes. But then") _ (by decide)).2.2

end GreenRoom.Providers.ResponsePolicy
