import Mathlib.Data.List.Sort
import Mathlib.Data.Prod.Lex
import GreenRoom.Lib.Utf8
import GreenRoom.Providers.CanonicalAddress

/-!
# Answers of a name lookup

`vettedAnswers` of `providers/secure-http-transport.ts`.  The addresses a resolver answers
with are checked one by one, kept once each and put in one order, so that what is connected
to is a function of the set of answers.

## Main definitions

* `vetAnswer`, `vettedAnswers`.
* `Names` — an answer is taken for an address.
* `Before` — the order of the addresses, IPv4 first.

## Main results

* `foldlM_vetAnswer` — what the loop has when it ends.
* `vettedAnswers_eq_none_iff`, `vettedAnswers_some` — the answers of the function.
* `vettedAnswers_order_independent`
-/

namespace GreenRoom.Providers.DnsAnswers

open JsString IpAddress

/-- The value of `family`. -/
def familyNumber : Family → ℤ
  | .v4 => 4
  | .v6 => 6

theorem familyNumber_injective : Function.Injective familyNumber := by
  intro x y h
  cases x <;> cases y <;> first | rfl | exact absurd h (by decide)

structure LookupAnswer where
  address : JsString
  family : ℤ
  deriving DecidableEq

def maxDnsAnswers : ℕ := 16

def maxDnsBytes : ℕ := 2048

/-! ## The loop -/

structure Vetting where
  bytes : ℕ
  seen : List (JsString × Family)
  accepted : List CanonicalAddress

/-- One answer.  It is `none` where it is no plain object of an address text and a family. -/
def vetAnswer (vetting : Vetting) : Option LookupAnswer → Option Vetting
  | none => none
  | some answer =>
    let bytes := vetting.bytes + (utf8Length answer.address + 8)
    if maxDnsBytes < bytes then none
    else
      match classifyAddress answer.address with
      | none => none
      | some parsed =>
        if (answer.family ≠ 4 ∧ answer.family ≠ 6) ∨ answer.family ≠ familyNumber parsed.family then
          none
        else
          match vetting.seen.lookup parsed.canonical with
          | some previous =>
              if previous ≠ parsed.family then none else some { vetting with bytes := bytes }
          | none =>
              some {
                bytes := bytes
                seen := (parsed.canonical, parsed.family) :: vetting.seen
                accepted := vetting.accepted ++ [parsed] }

/-- The function the accepted addresses are sorted by. -/
def compareAddresses (left right : CanonicalAddress) : ℤ :=
  let families := familyNumber left.family - familyNumber right.family
  if families ≠ 0 then families
  else if left.numeric < right.numeric then -1
  else if right.numeric < left.numeric then 1
  else 0

def vettedAnswers (answers : List (Option LookupAnswer)) : Option (List CanonicalAddress) :=
  if answers.length < 1 ∨ maxDnsAnswers < answers.length then none
  else
    (answers.foldlM vetAnswer ⟨0, [], []⟩).map fun vetting =>
      vetting.accepted.insertionSort fun left right => compareAddresses left right ≤ 0

/-! ## Addresses that are let through -/

/-- The canonical text of an address that is let through is let through as the address. -/
theorem classifyAddress_canonical {value : JsString} {address : CanonicalAddress}
    (h : classifyAddress value = some address) :
    classifyAddress address.canonical = some address := by
  rw [classifyAddress_eq_some] at h ⊢
  rcases h with ⟨hparse, hblocks⟩ | ⟨hparse, hblocks⟩
  · obtain ⟨parts, hparts, rfl⟩ := parseIpv4_some hparse
    exact .inl ⟨parseIpv4_render hparts, hblocks⟩
  · obtain ⟨words, hwords, rfl⟩ := parseIpv6_some hparse
    exact .inr ⟨parseIpv6_render hwords, hblocks⟩

/-- An address that is let through in some spelling. -/
def Global (address : CanonicalAddress) : Prop :=
  ∃ value, classifyAddress value = some address

theorem Global.eq_of_canonical {x y : CanonicalAddress} (hx : Global x) (hy : Global y)
    (h : x.canonical = y.canonical) : x = y := by
  obtain ⟨value, hvalue⟩ := hx
  obtain ⟨value', hvalue'⟩ := hy
  have hread := classifyAddress_canonical hvalue
  rw [h, classifyAddress_canonical hvalue'] at hread
  exact (Option.some.inj hread).symm

theorem Global.eq_of_numeric {x y : CanonicalAddress} (hx : Global x) (hy : Global y)
    (hfamily : x.family = y.family) (h : x.numeric = y.numeric) : x = y := by
  obtain ⟨value, hvalue⟩ := hx
  obtain ⟨value', hvalue'⟩ := hy
  rw [classifyAddress_eq_some] at hvalue hvalue'
  rcases hvalue with ⟨hparse, -⟩ | ⟨hparse, -⟩ <;> rcases hvalue' with ⟨hparse', -⟩ | ⟨hparse', -⟩
  · obtain ⟨parts, hparts, rfl⟩ := parseIpv4_some hparse
    obtain ⟨parts', hparts', rfl⟩ := parseIpv4_some hparse'
    rw [shiftIn_injective (hparts.length.trans hparts'.length.symm) hparts.bounded
      hparts'.bounded h]
  · obtain ⟨parts, -, rfl⟩ := parseIpv4_some hparse
    obtain ⟨words, -, rfl⟩ := parseIpv6_some hparse'
    cases hfamily
  · obtain ⟨words, -, rfl⟩ := parseIpv6_some hparse
    obtain ⟨parts, -, rfl⟩ := parseIpv4_some hparse'
    cases hfamily
  · obtain ⟨words, hwords, rfl⟩ := parseIpv6_some hparse
    obtain ⟨words', hwords', rfl⟩ := parseIpv6_some hparse'
    rw [shiftIn_injective (hwords.length.trans hwords'.length.symm) hwords.bounded
      hwords'.bounded h]

/-! ## The order -/

/-- IPv4 first, and by number within a family. -/
def Before (left right : CanonicalAddress) : Prop :=
  familyNumber left.family < familyNumber right.family ∨
    left.family = right.family ∧ left.numeric < right.numeric

instance (left right : CanonicalAddress) : Decidable (Before left right) :=
  inferInstanceAs (Decidable (_ ∨ _))

instance : Std.Irrefl Before where
  irrefl address h := by
    rcases h with h | ⟨-, h⟩ <;> exact absurd h (lt_irrefl _)

instance : Std.Antisymm Before where
  antisymm left right h h' := by
    rcases h with h | ⟨hfamily, h⟩ <;> rcases h' with h' | ⟨hfamily', h'⟩
    · exact absurd h (lt_asymm h')
    · exact absurd h (by rw [hfamily']; exact lt_irrefl _)
    · exact absurd h' (by rw [hfamily]; exact lt_irrefl _)
    · exact absurd h (lt_asymm h')

/-- What the addresses are sorted by. -/
def sortKey (address : CanonicalAddress) : ℤ ×ₗ ℕ :=
  toLex (familyNumber address.family, address.numeric)

theorem compareAddresses_iff (left right : CanonicalAddress) :
    compareAddresses left right ≤ 0 ↔ sortKey left ≤ sortKey right := by
  rw [compareAddresses, sortKey, sortKey, Prod.Lex.toLex_le_toLex]
  split <;> [skip; split <;> [skip; split]] <;> omega

instance : Std.Total fun left right => compareAddresses left right ≤ 0 where
  total left right := by
    rw [compareAddresses_iff, compareAddresses_iff]
    exact le_total _ _

instance : IsTrans CanonicalAddress fun left right => compareAddresses left right ≤ 0 where
  trans left middle right h h' := by
    rw [compareAddresses_iff] at h h' ⊢
    exact h.trans h'

/-- Different addresses that are let through are put in one order. -/
theorem Global.before {left right : CanonicalAddress} (hleft : Global left) (hright : Global right)
    (hne : left ≠ right) (h : compareAddresses left right ≤ 0) : Before left right := by
  rw [compareAddresses_iff, sortKey, sortKey, Prod.Lex.toLex_le_toLex] at h
  rcases h with h | ⟨hfamily, h⟩
  · exact .inl h
  · have hfamily := familyNumber_injective hfamily
    exact .inr ⟨hfamily, lt_of_le_of_ne h fun heq => hne (hleft.eq_of_numeric hright hfamily heq)⟩

/-! ## What the loop has read -/

/-- An answer is taken for an address. -/
def Names (answer : Option LookupAnswer) (address : CanonicalAddress) : Prop :=
  ∃ read, answer = some read ∧ classifyAddress read.address = some address ∧
    read.family = familyNumber address.family

theorem Names.global {answer : Option LookupAnswer} {address : CanonicalAddress}
    (h : Names answer address) : Global address := by
  obtain ⟨read, -, hread, -⟩ := h
  exact ⟨read.address, hread⟩

/-- An answer's share of the bytes that are allowed. -/
def answerBytes (answer : Option LookupAnswer) : ℕ :=
  answer.elim 0 fun read => utf8Length read.address + 8

def totalBytes (answers : List (Option LookupAnswer)) : ℕ := (answers.map answerBytes).sum

theorem totalBytes_append (answers : List (Option LookupAnswer)) (answer : Option LookupAnswer) :
    totalBytes (answers ++ [answer]) = totalBytes answers + answerBytes answer := by
  simp [totalBytes]

/-- What the loop has after the answers. -/
structure Vetted (answers : List (Option LookupAnswer)) (vetting : Vetting) : Prop where
  bytes : vetting.bytes = totalBytes answers
  seen : ∀ address, Global address → ∀ family,
    vetting.seen.lookup address.canonical = some family ↔
      address ∈ vetting.accepted ∧ family = address.family
  nodup : vetting.accepted.Nodup
  mem : ∀ address, address ∈ vetting.accepted ↔ ∃ answer ∈ answers, Names answer address

theorem Vetted.global {answers : List (Option LookupAnswer)} {vetting : Vetting}
    (h : Vetted answers vetting) {address : CanonicalAddress} (hmem : address ∈ vetting.accepted) :
    Global address := by
  obtain ⟨answer, -, hnames⟩ := (h.mem address).mp hmem
  exact hnames.global

/-- An answer that names no address, or one too many bytes, stops the loop. -/
theorem vetAnswer_eq_some {vetting next : Vetting} {answer : Option LookupAnswer}
    (h : vetAnswer vetting answer = some next) :
    (∃ address, Names answer address) ∧ vetting.bytes + answerBytes answer ≤ maxDnsBytes := by
  cases answer with
  | none => cases h
  | some read =>
      rw [vetAnswer] at h
      split at h
      · cases h
      · next hbytes =>
          refine ⟨?_, not_lt.mp hbytes⟩
          split at h
          · cases h
          · next parsed hparsed =>
              split at h
              · cases h
              · next hfamily =>
                  rw [not_or, not_not] at hfamily
                  exact ⟨parsed, read, rfl, hparsed, hfamily.2⟩

theorem mem_snoc_iff (answers : List (Option LookupAnswer)) {answer : Option LookupAnswer}
    {parsed : CanonicalAddress} (hnames : Names answer parsed) (address : CanonicalAddress) :
    (∃ answer' ∈ answers ++ [answer], Names answer' address) ↔
      (∃ answer' ∈ answers, Names answer' address) ∨ address = parsed := by
  have honly : Names answer address ↔ address = parsed := by
    obtain ⟨read, rfl, hread, hfamily⟩ := hnames
    constructor
    · rintro ⟨read', hread', hparsed', -⟩
      cases hread'
      exact Option.some.inj (hparsed'.symm.trans hread)
    · rintro rfl
      exact ⟨read, rfl, hread, hfamily⟩
  simp [or_and_right, exists_or, honly]

/-- An address is kept at the first answer that names it. -/
theorem Vetted.step {answers : List (Option LookupAnswer)} {vetting : Vetting}
    (h : Vetted answers vetting) {answer : Option LookupAnswer} {parsed : CanonicalAddress}
    (hnames : Names answer parsed) (hbytes : vetting.bytes + answerBytes answer ≤ maxDnsBytes) :
    ∃ next, vetAnswer vetting answer = some next ∧ Vetted (answers ++ [answer]) next := by
  have hglobal : Global parsed := hnames.global
  have hmem := mem_snoc_iff answers hnames
  obtain ⟨read, rfl, hread, hfamily⟩ := hnames
  have hchecked : ¬ ((read.family ≠ 4 ∧ read.family ≠ 6) ∨
      read.family ≠ familyNumber parsed.family) := by
    rw [hfamily]
    cases parsed.family <;> decide
  have hbytes' : ¬ maxDnsBytes < vetting.bytes + (utf8Length read.address + 8) := not_lt.mpr hbytes
  rw [vetAnswer, if_neg hbytes', hread]
  dsimp only
  rw [if_neg hchecked]
  cases hseen : vetting.seen.lookup parsed.canonical with
  | some previous =>
      obtain ⟨hkept, rfl⟩ := (h.seen parsed hglobal previous).mp hseen
      dsimp only
      refine ⟨_, if_neg (not_not.mpr rfl), ?_, h.seen, h.nodup, fun address => ?_⟩
      · rw [totalBytes_append, ← h.bytes]
        rfl
      · rw [hmem, ← h.mem]
        exact ⟨.inl, fun hor => hor.elim id fun heq => heq ▸ hkept⟩
  | none =>
      have hnew : parsed ∉ vetting.accepted := by
        intro hkept
        cases hseen.symm.trans ((h.seen parsed hglobal parsed.family).mpr ⟨hkept, rfl⟩)
      refine ⟨_, rfl, ?_, fun address haddress family => ?_, ?_, fun address => ?_⟩
      · rw [totalBytes_append, ← h.bytes]
        rfl
      · dsimp only
        rw [List.lookup_cons, List.mem_append, List.mem_singleton]
        by_cases heq : address.canonical = parsed.canonical
        · obtain rfl := haddress.eq_of_canonical hglobal heq
          simp [eq_comm]
        · have hne : address ≠ parsed := fun h => heq (congrArg _ h)
          rw [beq_false_of_ne heq]
          simpa [hne] using h.seen address haddress family
      · rw [List.nodup_append]
        refine ⟨h.nodup, List.nodup_singleton parsed, fun address hkept address' hadded => ?_⟩
        rintro rfl
        rw [List.mem_singleton.mp hadded] at hkept
        exact hnew hkept
      · rw [hmem, ← h.mem, List.mem_append, List.mem_singleton]

theorem vetted_nil : Vetted [] ⟨0, [], []⟩ :=
  ⟨rfl, by simp, List.nodup_nil, by simp⟩

/-- **The loop goes through** when every answer names an address and the bytes are few. -/
theorem foldlM_vetAnswer {answers : List (Option LookupAnswer)}
    (hnames : ∀ answer ∈ answers, ∃ address, Names answer address)
    (hbytes : totalBytes answers ≤ maxDnsBytes) :
    ∃ vetting, answers.foldlM vetAnswer ⟨0, [], []⟩ = some vetting ∧ Vetted answers vetting := by
  induction answers using List.reverseRecOn with
  | nil => exact ⟨_, rfl, vetted_nil⟩
  | append_singleton answers answer ih =>
      rw [totalBytes_append] at hbytes
      obtain ⟨vetting, hfold, hvetted⟩ :=
        ih (fun answer' h => hnames answer' (List.mem_append_left _ h)) (by omega)
      obtain ⟨address, haddress⟩ := hnames answer (by simp)
      rw [← hvetted.bytes] at hbytes
      obtain ⟨next, hnext, hstep⟩ := hvetted.step haddress hbytes
      refine ⟨next, ?_, hstep⟩
      rw [List.foldlM_append, hfold, Option.bind_eq_bind, Option.bind_some, List.foldlM_cons, hnext]
      rfl

theorem foldlM_vetAnswer_some {answers : List (Option LookupAnswer)} {vetting : Vetting}
    (h : answers.foldlM vetAnswer ⟨0, [], []⟩ = some vetting) :
    (∀ answer ∈ answers, ∃ address, Names answer address) ∧ totalBytes answers ≤ maxDnsBytes := by
  induction answers using List.reverseRecOn generalizing vetting with
  | nil => exact ⟨by simp, by decide⟩
  | append_singleton answers answer ih =>
      rw [List.foldlM_append, Option.bind_eq_bind, Option.bind_eq_some_iff] at h
      obtain ⟨before, hbefore, h⟩ := h
      have hstep : vetAnswer before answer = some vetting := by simpa using h
      obtain ⟨hnames, hbytes⟩ := ih hbefore
      obtain ⟨hlast, hlastBytes⟩ := vetAnswer_eq_some hstep
      obtain ⟨before', hbefore', hvetted⟩ := foldlM_vetAnswer hnames hbytes
      obtain rfl := Option.some.inj (hbefore'.symm.trans hbefore)
      refine ⟨fun answer' hmem => ?_, by rwa [totalBytes_append, ← hvetted.bytes]⟩
      rcases List.mem_append.mp hmem with hmem | hmem
      · exact hnames answer' hmem
      · rw [List.mem_singleton.mp hmem]
        exact hlast

/-! ## The answers of the function -/

def WithinLimits (answers : List (Option LookupAnswer)) : Prop :=
  answers.length ≤ maxDnsAnswers ∧ totalBytes answers ≤ maxDnsBytes

instance (answers : List (Option LookupAnswer)) : Decidable (WithinLimits answers) :=
  inferInstanceAs (Decidable (_ ∧ _))

theorem WithinLimits.perm {answers permuted : List (Option LookupAnswer)}
    (h : WithinLimits answers) (hperm : permuted.Perm answers) : WithinLimits permuted :=
  ⟨hperm.length_eq.trans_le h.1, (hperm.map answerBytes).sum_eq.trans_le h.2⟩

/-- **What is refused.** -/
theorem vettedAnswers_eq_none_iff (answers : List (Option LookupAnswer)) :
    vettedAnswers answers = none ↔
      answers = [] ∨ ¬ WithinLimits answers ∨
        ∃ answer ∈ answers, ∀ address, ¬ Names answer address := by
  rw [vettedAnswers]
  split
  · next hcount =>
      refine iff_of_true rfl ?_
      rcases hcount with hcount | hcount
      · exact .inl (List.length_eq_zero_iff.mp (by omega))
      · exact .inr (.inl fun hlimits => absurd hlimits.1 (by omega))
  · next hcount =>
      rw [Option.map_eq_none_iff]
      have hne : answers ≠ [] := by
        rintro rfl
        exact hcount (.inl (by decide))
      constructor
      · intro hfold
        by_contra hgood
        push Not at hgood
        obtain ⟨-, hlimits, hnames⟩ := hgood
        obtain ⟨vetting, hvetting, -⟩ := foldlM_vetAnswer hnames hlimits.2
        cases hfold.symm.trans hvetting
      · rintro (heq | hbad)
        · exact absurd heq hne
        · refine Option.eq_none_iff_forall_ne_some.mpr fun vetting hvetting => ?_
          obtain ⟨hnames, hbytes⟩ := foldlM_vetAnswer_some hvetting
          rcases hbad with hbad | ⟨answer, hmem, hbad⟩
          · exact hbad ⟨by omega, hbytes⟩
          · obtain ⟨address, haddress⟩ := hnames answer hmem
            exact hbad address haddress

/-- **What is answered**: the addresses that the answers name, each once and in order. -/
theorem vettedAnswers_some {answers : List (Option LookupAnswer)} {vetted : List CanonicalAddress}
    (h : vettedAnswers answers = some vetted) :
    vetted.Pairwise Before ∧
      ∀ address, address ∈ vetted ↔ ∃ answer ∈ answers, Names answer address := by
  rw [vettedAnswers] at h
  split at h
  · cases h
  · obtain ⟨vetting, hfold, rfl⟩ := Option.map_eq_some_iff.mp h
    obtain ⟨hnames, hbytes⟩ := foldlM_vetAnswer_some hfold
    obtain ⟨vetting', hfold', hvetted⟩ := foldlM_vetAnswer hnames hbytes
    obtain rfl := Option.some.inj (hfold'.symm.trans hfold)
    refine ⟨?_, fun address => by rw [List.mem_insertionSort, hvetted.mem]⟩
    have hnodup := ((List.perm_insertionSort (fun left right => compareAddresses left right ≤ 0)
      vetting'.accepted).nodup_iff).mpr hvetted.nodup
    have hsorted := List.pairwise_insertionSort
      (fun left right => compareAddresses left right ≤ 0) vetting'.accepted
    refine (hsorted.and hnodup).imp_of_mem fun hleft hright ⟨hle, hne⟩ => ?_
    rw [List.mem_insertionSort] at hleft hright
    exact (hvetted.global hleft).before (hvetted.global hright) hne hle

/-- Within the limits, answers are refused when there are none or one of them names no
global address of its family.  Otherwise the addresses they name come out, each once and
in order, and the same ones for every order of the answers. -/
theorem vettedAnswers_order_independent (answers : List (Option LookupAnswer))
    (h : WithinLimits answers) :
    (vettedAnswers answers = none ↔
      answers = [] ∨ ∃ answer ∈ answers, ∀ address, ¬ Names answer address) ∧
    (∀ vetted, vettedAnswers answers = some vetted →
      vetted.Nodup ∧ vetted.Pairwise Before ∧
        ∀ address, address ∈ vetted ↔ ∃ answer ∈ answers, Names answer address) ∧
    (∀ permuted : List (Option LookupAnswer), permuted.Perm answers →
      vettedAnswers permuted = vettedAnswers answers) := by
  have hrefused : ∀ permuted : List (Option LookupAnswer), permuted.Perm answers →
      (vettedAnswers permuted = none ↔
        permuted = [] ∨ ∃ answer ∈ permuted, ∀ address, ¬ Names answer address) := by
    intro permuted hperm
    rw [vettedAnswers_eq_none_iff, or_iff_right (not_not.mpr (h.perm hperm))]
  refine ⟨hrefused answers (.refl _), fun vetted hvetted => ?_, fun permuted hperm => ?_⟩
  · obtain ⟨hsorted, hmem⟩ := vettedAnswers_some hvetted
    exact ⟨hsorted.nodup, hsorted, hmem⟩
  · have hnone : vettedAnswers permuted = none ↔ vettedAnswers answers = none := by
      rw [hrefused permuted hperm, hrefused answers (.refl _)]
      simp only [hperm.mem_iff, ← List.length_eq_zero_iff, hperm.length_eq]
    cases hvetted : vettedAnswers answers with
    | none => exact hnone.mpr hvetted
    | some vetted =>
        cases hpermuted : vettedAnswers permuted with
        | none => cases (hnone.mp hpermuted).symm.trans hvetted
        | some vetted' =>
            obtain ⟨hsorted, hmem⟩ := vettedAnswers_some hvetted
            obtain ⟨hsorted', hmem'⟩ := vettedAnswers_some hpermuted
            refine congrArg some (hsorted'.eq_of_mem_iff hsorted fun address => ?_)
            rw [hmem, hmem']
            simp only [hperm.mem_iff]

/-- One address in two spellings, and one of the other family. -/
theorem vettedAnswers_order_independent_spellings :
    let answers := [some ⟨ofString "2606:4700:0::1111", 6⟩, some ⟨ofString "1.1.1.1", 4⟩,
      some ⟨ofString "2606:4700::1111", 6⟩]
    WithinLimits answers ∧ vettedAnswers answers.reverse = vettedAnswers answers :=
  ⟨by decide,
    (vettedAnswers_order_independent _ (by decide)).2.2 _ (List.reverse_perm _)⟩

end GreenRoom.Providers.DnsAnswers
