import GreenRoom.Core.DirectorInvariant
import GreenRoom.Lib.JsonRoundTrip

/-!
# Snapshots restore the director

A sound director's snapshot passes every check `restore` makes of it, and the
director it restores is the same but for the muted personas, which a snapshot
leaves out, and the order in which the per-namespace sets are kept, which no
method sees.

## Main definitions

* `Director.Agrees` — directors no sequence of calls tells apart.
* `Director.remute` — the loop that mutes a restored director's personas again.

## Main results

* `restoreSnapshot_snapshot` — every check passes.
* `Agrees.run` — the answers to every sequence of calls are the same.
* `snapshot_round_trip` — through the JSON text, from any sequence of calls.
-/

namespace GreenRoom.Core

open JsString

namespace Director

variable {d d' : Director}

/-! ## Construction -/

theorem mapM_require_iff (personas result : List JsString) :
    (personas.mapM fun persona => requireCanonicalIdentifier (some persona) "persona id" none) =
        .ok result ↔
      result = personas ∧ ∀ p ∈ personas, IsCanonical none p := by
  induction personas generalizing result with
  | nil =>
      simp [pure, Except.pure, eq_comm]
  | cons p ps ih =>
      rw [List.mapM_cons]
      cases hp : requireCanonicalIdentifier (some p) "persona id" none with
      | error e =>
          constructor
          · intro h
            cases h
          · rintro ⟨-, hall⟩
            rw [requireCanonicalIdentifier_of (hall p List.mem_cons_self)] at hp
            cases hp
      | ok q =>
          obtain ⟨rfl, hq⟩ := isCanonical_of_require hp
          cases hps : ps.mapM fun persona =>
              requireCanonicalIdentifier (some persona) "persona id" none with
          | error e =>
              constructor
              · intro h
                cases h
              · rintro ⟨-, hall⟩
                have hok := (ih ps).mpr ⟨rfl, fun p hp => hall p (List.mem_cons_of_mem _ hp)⟩
                rw [hps] at hok
                cases hok
          | ok qs =>
              obtain ⟨rfl, hqs⟩ := (ih qs).mp hps
              constructor
              · intro h
                cases h
                refine ⟨rfl, ?_⟩
                intro p hp
                rcases List.mem_cons.mp hp with rfl | hp
                · exact hq
                · exact hqs p hp
              · rintro ⟨rfl, -⟩
                rfl

theorem requireRoster_iff (personas result : List JsString) :
    requireRoster personas = .ok result ↔
      result = personas ∧ (∀ p ∈ personas, IsCanonical none p) ∧ personas.Nodup := by
  unfold requireRoster
  cases hp : personas.mapM fun persona =>
      requireCanonicalIdentifier (some persona) "persona id" none with
  | error e =>
      constructor
      · intro h
        cases h
      · rintro ⟨rfl, hall, -⟩
        rw [(mapM_require_iff result result).mpr ⟨rfl, hall⟩] at hp
        cases hp
  | ok qs =>
      obtain ⟨rfl, hall⟩ := (mapM_require_iff personas qs).mp hp
      by_cases hnodup : qs.Nodup
      · constructor
        · intro h
          rw [bind, Except.instMonad] at h
          simp only [Except.bind, if_pos hnodup, Except.ok.injEq] at h
          exact ⟨h.symm, hall, hnodup⟩
        · rintro ⟨rfl, -, -⟩
          simp [bind, Except.bind, hnodup]
      · constructor
        · intro h
          simp [bind, Except.bind, hnodup, typeError] at h
        · rintro ⟨-, -, h⟩
          exact absurd h hnodup

theorem safeNonNegative_lt {value : Option (Json ℤ)} {n : ℕ} (h : safeNonNegative value = some n) :
    n < safeIntegerBound := by
  unfold safeNonNegative at h
  split at h
  · split at h
    · next hsafe =>
        cases h
        omega
    · cases h
  · cases h

/-- A fresh director has a canonical roster, a safe budget and nothing else. -/
theorem construct_fresh {personas : List JsString} {options : Option ℤ}
    (h : construct personas options none = .ok d) :
    (∀ p ∈ personas, IsCanonical none p) ∧ personas.Nodup ∧
      ∃ budget < safeIntegerBound, d = { personas, maxAutonomousTurns := budget } := by
  unfold construct at h
  cases hr : requireRoster personas with
  | error e =>
      rw [hr] at h
      cases h
  | ok qs =>
      obtain ⟨rfl, hall, hnodup⟩ := (requireRoster_iff personas qs).mp hr
      rw [hr] at h
      simp only [bind, Except.bind, requireBudget] at h
      split at h
      · cases h
      · next budget hb =>
          split at hb
          · cases hb
          · next hn =>
              rw [if_neg (by simp)] at hb
              cases hb
              cases h
              exact ⟨hall, hnodup, budget, safeNonNegative_lt hn, rfl⟩

theorem sound_construct {personas : List JsString} {options : Option ℤ}
    (h : construct personas options none = .ok d) : Sound d := by
  obtain ⟨hall, hnodup, budget, hbudget, rfl⟩ := construct_fresh h
  constructor
  · constructor <;> simp [hasSeen, holds]
  all_goals simp_all

/-! ## The checks of a snapshot -/

theorem safeNonNegative_of {n : ℕ} (h : n < safeIntegerBound) :
    safeNonNegative (some (.num n)) = some n := by
  have hsafe : (0 : ℤ) ≤ n ∧ (n : ℤ) < safeIntegerBound := by
    constructor <;> omega
  rw [safeNonNegative, if_pos hsafe, Int.toNat_natCast]

theorem requireNonNegativeInteger_of {n : ℕ} (h : n < safeIntegerBound) (field : String) :
    requireNonNegativeInteger (some (.num n)) field = .ok n := by
  rw [requireNonNegativeInteger, safeNonNegative_of h]

/-- The selections of a snapshot are read back in order. -/
theorem restoreSelections_snapshot (personas : List PersonaId) {accepted : ℕ}
    (hsafe : accepted < safeIntegerBound) (entries : List ((_ : PersonaId) × ℕ))
    (table : KeyedTable PersonaId ℕ) (numbers : Finset ℕ)
    (hentries : ∀ e ∈ entries, e.1 ∈ personas ∧ 0 < e.2 ∧ e.2 ≤ accepted ∧ e.2 ∉ numbers)
    (hkeys : (table.entries ++ entries).NodupKeys)
    (hnumbers : (entries.map Sigma.snd).Nodup) :
    ∃ table', restoreSelections personas accepted (entries.map snapshotSelection) table numbers =
        .ok table' ∧ table'.entries = table.entries ++ entries := by
  induction entries generalizing table numbers with
  | nil => exact ⟨table, rfl, (List.append_nil _).symm⟩
  | cons e entries ih =>
      obtain ⟨p, n⟩ := e
      obtain ⟨hmem, hpos, hle, hnot⟩ := hentries ⟨p, n⟩ List.mem_cons_self
      simp only at hmem hpos hle hnot
      rw [List.map_cons, List.nodup_cons] at hnumbers
      have hfresh : p ∉ table := by
        rw [AList.mem_keys]
        intro hp
        rw [List.NodupKeys, List.keys, List.map_append, List.nodup_append] at hkeys
        exact hkeys.2.2 p hp p (by simp) rfl
      have hset := KeyedTable.entries_set_of_notMem hfresh n
      have hint := requireNonNegativeInteger_of (n := n) (by omega) "snapshot event number"
      obtain ⟨table', hok, htable⟩ := ih (KeyedTable.set p n table) (insert n numbers)
        (by
          intro e he
          obtain ⟨h₁, h₂, h₃, h₄⟩ := hentries e (List.mem_cons_of_mem _ he)
          refine ⟨h₁, h₂, h₃, ?_⟩
          rw [Finset.mem_insert, not_or]
          refine ⟨?_, h₄⟩
          intro hen
          exact hnumbers.1 (List.mem_map.mpr ⟨e, he, hen⟩))
        (by
          rw [hset, List.append_assoc]
          exact hkeys)
        hnumbers.2
      refine ⟨table', ?_, by rw [htable, hset, List.append_assoc]; rfl⟩
      rw [List.map_cons, snapshotSelection, restoreSelections, if_neg (by simp [hmem, hfresh])]
      simp only [hint]
      rw [if_neg (by simp [hnot]; omega)]
      exact hok

/-- The identities of a snapshot are read back in order. -/
theorem restoreSeen_snapshot (identities : List EventIdentity) (d : Director) (h : Window d)
    (hnodup : (d.seenOrder ++ identities).Nodup)
    (hlen : (d.seenOrder ++ identities).length ≤ maxTrackedEventIdentities)
    (hcanonical : ∀ x ∈ identities, IsCanonical (some maxNamespaceLength) x.1 ∧
      IsCanonical (some maxEventIdLength) x.2) :
    ∃ seen, restoreSeen (identities.map snapshotIdentity) d =
        .ok { d with seenByNamespace := seen, seenOrder := d.seenOrder ++ identities } ∧
      Window { d with seenByNamespace := seen, seenOrder := d.seenOrder ++ identities } := by
  induction identities generalizing d with
  | nil =>
      refine ⟨d.seenByNamespace, ?_, ?_⟩
      · simp [restoreSeen]
      · simpa using h
  | cons x identities ih =>
      obtain ⟨hn, hi⟩ := hcanonical x List.mem_cons_self
      have hnot : x ∉ d.seenOrder := by
        rw [List.nodup_append] at hnodup
        exact fun hx => hnodup.2.2 x hx x List.mem_cons_self rfl
      have hunseen : d.hasSeen x = false := by
        rw [Bool.eq_false_iff, ne_eq, h.hasSeen_iff]
        exact hnot
      have hwindow := h.recordSeen hunseen hn hi
      have horder : d.recordSeen x =
          { d with
            seenByNamespace := remember x d.seenByNamespace
            seenOrder := d.seenOrder ++ [x] } := by
        rcases recordSeen_eq x d with ⟨-, heq⟩ | ⟨_, _, hge, -, -⟩
        · exact heq
        · simp only [List.length_append, List.length_cons] at hlen
          omega
      rw [horder] at hwindow
      obtain ⟨seen, hok, hw⟩ := ih _ hwindow (by simpa using hnodup) (by simpa using hlen)
        (fun y hy => hcanonical y (List.mem_cons_of_mem _ hy))
      refine ⟨seen, ?_, by simpa using hw⟩
      rw [List.map_cons, snapshotIdentity, restoreSeen]
      simp only [Json.str?, requireCanonicalIdentifier_of hn, requireCanonicalIdentifier_of hi]
      rw [if_neg (by simp [hunseen]), horder, hok]
      simp

/-- Folding keeps the later of two entries only if it is greater. -/
theorem latestSelection_eq {entries : List ((_ : PersonaId) × ℕ)} {e : (_ : PersonaId) × ℕ}
    (hmem : e ∈ entries) (hmax : ∀ f ∈ entries, f ≠ e → f.2 < e.2) :
    latestSelection entries = some e := by
  have hfold : ∀ (l : List ((_ : PersonaId) × ℕ)) (f : (_ : PersonaId) × ℕ), e ∈ f :: l →
      (∀ g ∈ f :: l, g ≠ e → g.2 < e.2) →
      l.foldl (fun latest entry => if latest.2 < entry.2 then entry else latest) f = e := by
    intro l
    induction l with
    | nil =>
        intro f hf _
        exact (List.mem_singleton.mp hf).symm
    | cons g l ih =>
        intro f hf hall
        rw [List.foldl_cons]
        by_cases hfe : f = e
        · -- `e` is in front and stays there
          subst hfe
          have hkeep : ¬ f.2 < g.2 := by
            by_cases hgf : g = f
            · rw [hgf]
              exact lt_irrefl _
            · exact not_lt.mpr (hall g (by simp) hgf).le
          rw [if_neg hkeep]
          refine ih f List.mem_cons_self ?_
          intro k hk hkf
          rcases List.mem_cons.mp hk with rfl | hk
          · exact absurd rfl hkf
          · exact hall k (by simp [hk]) hkf
        · have hel : e ∈ g :: l := by
            rcases List.mem_cons.mp hf with rfl | h
            · exact absurd rfl hfe
            · exact h
          have hlt := hall f List.mem_cons_self hfe
          refine ih _ ?_ ?_
          · split
            · exact hel
            · next hge =>
                rcases List.mem_cons.mp hel with rfl | hl
                · exact absurd hlt hge
                · exact List.mem_cons_of_mem _ hl
          · intro k hk hke
            rcases List.mem_cons.mp hk with rfl | hk
            · by_cases hfg : f.2 < g.2
              · rw [if_pos hfg] at hke ⊢
                exact hall g (by simp) hke
              · rw [if_neg hfg]
                exact hlt
            · exact hall k (by simp [hk]) hke
  cases entries with
  | nil => cases hmem
  | cons f l => rw [latestSelection, hfold l f hmem hmax]

theorem Sound.numbers_nodup (h : Sound d) : (d.lastSelectedAt.entries.map Sigma.snd).Nodup := by
  refine List.Nodup.map_on ?_ d.lastSelectedAt.nodupKeys.nodup
  rintro ⟨p, n⟩ hp ⟨q, m⟩ hq hnm
  simp only at hnm
  subst hnm
  have hpq := h.selected_distinct p q n (KeyedTable.mem_entries_iff.mp hp)
    (KeyedTable.mem_entries_iff.mp hq)
  rw [hpq]

theorem checkSelectionHistory_ok (h : Sound d) : d.checkSelectionHistory = .ok () := by
  have hle := h.selections_le
  have hzero : d.autonomousTurns = 0 ↔ d.lastSelectedAt.entries.length = 0 := by
    constructor
    · intro ht
      omega
    · intro hs
      rcases h.rotation with ⟨ht, -⟩ | ⟨p, n, hp, -⟩
      · exact ht
      · have hmem := KeyedTable.mem_entries_iff.mpr hp
        rw [List.length_eq_zero_iff.mp hs] at hmem
        cases hmem
  simp only [checkSelectionHistory]
  rw [if_neg (by simp only [not_or, not_not, not_lt]; exact ⟨hle, hzero⟩)]
  rcases h.rotation with ⟨ht, hf⟩ | ⟨p, n, hp, hturns, hmax, hf⟩
  · rw [if_pos ht, if_neg (not_not.mpr hf)]
  · have hmem := KeyedTable.mem_entries_iff.mpr hp
    have hturn : d.autonomousTurns ≠ 0 := by
      rw [ne_eq, hzero, List.length_eq_zero_iff]
      exact List.ne_nil_of_mem hmem
    have hlatest : latestSelection d.lastSelectedAt.entries = some ⟨p, n⟩ := by
      refine latestSelection_eq hmem ?_
      rintro ⟨q, m⟩ hq hne
      have hq' := KeyedTable.mem_entries_iff.mp hq
      refine lt_of_le_of_ne (hmax q m hq') ?_
      intro hmn
      simp only at hmn
      subst hmn
      exact hne (by rw [h.selected_distinct q p m hq' hp])
    rw [if_neg hturn, hlatest]
    simp only
    rw [if_neg (not_lt.mpr hturns), if_neg (not_not.mpr hf)]

/-- The fallback index lies in the roster. -/
theorem Sound.fallbackIndex_lt (h : Sound d) :
    ¬ if d.personas.length = 0 then d.fallbackIndex ≠ 0
      else d.personas.length ≤ d.fallbackIndex := by
  rcases h.rotation with ⟨-, hf⟩ | ⟨p, n, hp, -, -, hf⟩
  · rw [hf]
    split <;> simp_all
  · have hpos : 0 < d.personas.length := List.length_pos_of_mem (h.selected p n hp).1
    rw [if_neg hpos.ne', hf]
    exact not_le.mpr (Nat.mod_lt _ hpos)

theorem snapshot_keys (d : Director) :
    join [0] (d.snapshot.keys.insertionSort fun a b => le a b) = join [0] snapshotKeys := by
  have hkeys : d.snapshot.keys = (["version", "autonomousTurns", "acceptedHumanEventNumber",
      "fallbackIndex", "cancelled", "maxAutonomousTurns", "lastSelectedAt", "seen"].map
        ofString) := rfl
  rw [hkeys]
  decide

/-- The checks `restoreSnapshot` makes, one hypothesis each. -/
theorem restoreSnapshot_of_checks {s : Json ℤ} {fresh d' : Director}
    {autonomousTurns acceptedHumanEventNumber fallbackIndex : ℕ} {cancelled : Bool}
    {selections seen : List (Json ℤ)} {lastSelectedAt : KeyedTable PersonaId ℕ}
    (hversion : (s.member? (ofString "version")).bind Json.num? = some 1)
    (hkeys : join [0] (s.keys.insertionSort fun a b => le a b) = join [0] snapshotKeys)
    (hturns : requireNonNegativeInteger (s.member? (ofString "autonomousTurns"))
      "snapshot autonomousTurns" = .ok autonomousTurns)
    (haccepted : requireNonNegativeInteger (s.member? (ofString "acceptedHumanEventNumber"))
      "snapshot acceptedHumanEventNumber" = .ok acceptedHumanEventNumber)
    (hle : autonomousTurns ≤ acceptedHumanEventNumber)
    (hfallback : requireNonNegativeInteger (s.member? (ofString "fallbackIndex"))
      "snapshot fallbackIndex" = .ok fallbackIndex)
    (hroster : ¬ if fresh.personas.length = 0 then fallbackIndex ≠ 0
      else fresh.personas.length ≤ fallbackIndex)
    (hcancelled : s.member? (ofString "cancelled") = some (.bool cancelled))
    (hselections : s.member? (ofString "lastSelectedAt") = some (.arr selections))
    (hseen : s.member? (ofString "seen") = some (.arr seen))
    (hseenLe : seen.length ≤ maxTrackedEventIdentities)
    (htable : restoreSelections fresh.personas acceptedHumanEventNumber selections ∅ ∅ =
      .ok lastSelectedAt)
    (hhistory : checkSelectionHistory
      { fresh with autonomousTurns, acceptedHumanEventNumber, fallbackIndex, cancelled,
                   lastSelectedAt } = .ok ())
    (hseenGe : min acceptedHumanEventNumber maxTrackedEventIdentities ≤ seen.length)
    (hwindow : restoreSeen seen
      { fresh with autonomousTurns, acceptedHumanEventNumber, fallbackIndex, cancelled,
                   lastSelectedAt } = .ok d') :
    restoreSnapshot s fresh = .ok d' := by
  simp only [restoreSnapshot, hversion, hkeys, hturns, haccepted, hfallback, hcancelled,
    hselections, hseen, htable, hhistory, hwindow, hroster, bind, Except.bind, ne_eq,
    not_true_eq_false, or_self, if_false, not_lt.mpr hle, not_lt.mpr hseenLe, not_lt.mpr hseenGe]

/-- What a director keeps through a snapshot. -/
def withoutMutes (d : Director) (seen : KeyedTable JsString (Finset JsString)) : Director :=
  { d with muted := ∅, seenByNamespace := seen }

/-- **Every check passes.** -/
theorem restoreSnapshot_snapshot (h : Sound d)
    (hsafe : d.acceptedHumanEventNumber < safeIntegerBound)
    (hfallback : d.fallbackIndex < safeIntegerBound) :
    ∃ seen, restoreSnapshot d.snapshot
        { personas := d.personas, maxAutonomousTurns := d.maxAutonomousTurns } =
        .ok (d.withoutMutes seen) ∧ Window (d.withoutMutes seen) := by
  obtain ⟨table, hselections, htable⟩ := restoreSelections_snapshot d.personas hsafe
    d.lastSelectedAt.entries ∅ ∅
    (by
      rintro ⟨p, n⟩ he
      obtain ⟨hp, hpos, hle⟩ := h.selected p n (KeyedTable.mem_entries_iff.mp he)
      exact ⟨hp, hpos, hle, Finset.notMem_empty n⟩)
    d.lastSelectedAt.nodupKeys h.numbers_nodup
  have htable : table = d.lastSelectedAt := AList.ext htable
  subst htable
  let read : Director := { d with muted := ∅, seenByNamespace := ∅, seenOrder := [] }
  have hempty : Window read := by
    constructor <;> simp [read, hasSeen, holds]
  obtain ⟨seen, hseen, hwindow⟩ := restoreSeen_snapshot d.seenOrder read hempty h.nodup
    h.length_le h.canonical
  have hhistory : read.checkSelectionHistory = d.checkSelectionHistory := rfl
  refine ⟨seen, ?_, hwindow⟩
  refine restoreSnapshot_of_checks (s := d.snapshot) rfl d.snapshot_keys
    (requireNonNegativeInteger_of (lt_of_le_of_lt h.turns_le hsafe) _)
    (requireNonNegativeInteger_of hsafe _) h.turns_le (requireNonNegativeInteger_of hfallback _)
    h.fallbackIndex_lt rfl rfl rfl ?_ hselections (hhistory.trans (checkSelectionHistory_ok h)) ?_
    hseen
  · rw [List.length_map]
    exact h.length_le
  · rw [List.length_map]
    exact h.seen_ge

theorem requireBudget_stored {s v : Json ℤ} {n : ℕ} {options : Option ℤ}
    (hs : s.member? (ofString "maxAutonomousTurns") = some v) (hnull : v.isNull = false)
    (hsafe : safeNonNegative (some v) = some n) (hoptions : options = none ∨ options = v.num?) :
    requireBudget options (some s) = .ok n := by
  have hmatch : ¬ ((some s).isSome ∧ options.isSome ∧ v.num? ≠ options) := by
    rintro ⟨-, hsome, hne⟩
    rcases hoptions with rfl | rfl
    · cases hsome
    · exact hne rfl
  have hkept : ((some v).filter fun v => !v.isNull) = some v := by simp [hnull]
  simp only [requireBudget, Option.bind_some, hs, hkept, Option.getD_some, hsafe, if_neg hmatch]

theorem restore_of_checks {personas : List JsString} {s : Json ℤ} {options : Option ℤ} {budget : ℕ}
    (hroster : requireRoster personas = .ok personas)
    (hbudget : requireBudget options (some s) = .ok budget)
    (hrestore : restoreSnapshot s { personas, maxAutonomousTurns := budget } = .ok d') :
    restore personas s options = .ok d' := by
  simp only [restore, construct, hroster, hbudget, hrestore, bind, Except.bind]

/-- A sound director's snapshot restores it, but for the mutes. -/
theorem restore_snapshot (h : Sound d) (hsafe : d.acceptedHumanEventNumber < safeIntegerBound)
    (hfallback : d.fallbackIndex < safeIntegerBound) {options : Option ℤ}
    (hoptions : options = none ∨ options = some (d.maxAutonomousTurns : ℤ)) :
    ∃ seen, restore d.personas d.snapshot options = .ok (d.withoutMutes seen) ∧
      Window (d.withoutMutes seen) := by
  obtain ⟨seen, hok, hwindow⟩ := restoreSnapshot_snapshot h hsafe hfallback
  have hroster := (requireRoster_iff d.personas d.personas).mpr
    ⟨rfl, h.personas_canonical, h.personas_nodup⟩
  have hbudget : requireBudget options (some d.snapshot) = .ok d.maxAutonomousTurns :=
    requireBudget_stored (v := .num d.maxAutonomousTurns) rfl rfl
      (safeNonNegative_of h.budget_safe) hoptions
  exact ⟨seen, restore_of_checks hroster hbudget hok, hwindow⟩

/-- The numbers and strings of a snapshot stand under distinct names. -/
theorem snapshot_distinct (d : Director) : d.snapshot.Distinct := by
  have hpairs : ∀ {α : Type} (f : α → Json ℤ) (xs : List α), (∀ x, (f x).Distinct) →
      Json.DistinctElements (xs.map f) := by
    intro α f xs hf
    induction xs with
    | nil => trivial
    | cons x xs ih => exact ⟨hf x, ih⟩
  have hkeys : d.snapshot.keys.Nodup := by
    have hliteral : (["version", "autonomousTurns", "acceptedHumanEventNumber", "fallbackIndex",
        "cancelled", "maxAutonomousTurns", "lastSelectedAt", "seen"].map ofString).Nodup := by
      decide
    exact hliteral
  refine ⟨hkeys, trivial, trivial, trivial, trivial, trivial, trivial, ?_, ?_, trivial⟩
  · exact hpairs _ _ fun _ => ⟨trivial, trivial, trivial⟩
  · exact hpairs _ _ fun _ => ⟨trivial, trivial, trivial⟩

/-! ## Directors no call tells apart -/

/-- The same but for how the per-namespace sets are kept. -/
structure Agrees (d d' : Director) : Prop where
  same : d' = { d with seenByNamespace := d'.seenByNamespace }
  window : Window d
  window' : Window d'

theorem Agrees.hasSeen (h : Agrees d d') (x : EventIdentity) : d'.hasSeen x = d.hasSeen x := by
  have horder : d'.seenOrder = d.seenOrder := by rw [h.same]
  rw [Bool.eq_iff_iff, h.window'.hasSeen_iff, h.window.hasSeen_iff, horder]

theorem Agrees.recordSeen (h : Agrees d d') (e : VerifiedDirectorEvent)
    (hseen : d.hasSeen e.identity = false) :
    Agrees (d.recordSeen e.identity) (d'.recordSeen e.identity) where
  same := by
    rw [h.same]
    unfold Director.recordSeen
    simp only
    split
    · rfl
    · split <;> rfl
  window := h.window.recordSeen hseen e.namespace_canonical e.eventId_canonical
  window' := h.window'.recordSeen ((h.hasSeen e.identity).trans hseen) e.namespace_canonical
    e.eventId_canonical

theorem Agrees.accept (h : Agrees d d') : Agrees d.accept d'.accept where
  same := by
    rw [h.same]
    rfl
  window := ⟨h.window.nodup, h.window.length_le, h.window.canonical, h.window.hasSeen_iff⟩
  window' := ⟨h.window'.nodup, h.window'.length_le, h.window'.canonical, h.window'.hasSeen_iff⟩

theorem Agrees.scheduleAccepted (h : Agrees d d') (wantsResponse : Bool)
    (directedPersonaId : Option PersonaId) :
    (d'.scheduleAccepted wantsResponse directedPersonaId).1 =
        (d.scheduleAccepted wantsResponse directedPersonaId).1 ∧
      Agrees (d.scheduleAccepted wantsResponse directedPersonaId).2
        (d'.scheduleAccepted wantsResponse directedPersonaId).2 := by
  have hchoose : d'.chooseSpeaker directedPersonaId = d.chooseSpeaker directedPersonaId := by
    rw [h.same]
    rfl
  have hp : d'.personas = d.personas := by rw [h.same]
  have hm : d'.muted = d.muted := by rw [h.same]
  unfold Director.scheduleAccepted
  rw [hchoose, hp, hm]
  split
  · exact ⟨rfl, h⟩
  · split
    · exact ⟨rfl, h⟩
    · split
      · exact ⟨rfl, h⟩
      · split
        · exact ⟨rfl, h⟩
        · refine ⟨rfl, ?_, ?_, ?_⟩
          · rw [h.same]
            rfl
          · exact ⟨h.window.nodup, h.window.length_le, h.window.canonical, h.window.hasSeen_iff⟩
          · exact ⟨h.window'.nodup, h.window'.length_le, h.window'.canonical,
              h.window'.hasSeen_iff⟩

theorem Agrees.schedule (h : Agrees d d') (event : Option VerifiedDirectorEvent)
    (directedPersonaId : Option PersonaId) :
    (∃ e, d.schedule event directedPersonaId = .error e ∧
      d'.schedule event directedPersonaId = .error e) ∨
    ∃ decision next next', d.schedule event directedPersonaId = .ok (decision, next) ∧
      d'.schedule event directedPersonaId = .ok (decision, next') ∧ Agrees next next' := by
  have hc : d'.cancelled = d.cancelled := by rw [h.same]
  have hdirect : d'.requireDirectable directedPersonaId =
      d.requireDirectable directedPersonaId := by
    rw [h.same]
    rfl
  unfold Director.schedule
  rw [hdirect, hc]
  cases d.requireDirectable directedPersonaId with
  | error e => exact .inl ⟨e, rfl, rfl⟩
  | ok _ =>
      refine .inr ?_
      by_cases hcancelled : d.cancelled = true
      · rw [if_pos hcancelled, if_pos hcancelled]
        exact ⟨_, _, _, rfl, rfl, h⟩
      · rw [if_neg hcancelled, if_neg hcancelled]
        cases event with
        | none => exact ⟨_, _, _, rfl, rfl, h⟩
        | some e =>
            simp only [h.hasSeen]
            by_cases hseen : d.hasSeen e.identity = true
            · rw [if_pos hseen, if_pos hseen]
              exact ⟨_, _, _, rfl, rfl, h⟩
            · rw [if_neg hseen, if_neg hseen]
              have hrec := h.recordSeen e (by simpa using hseen)
              by_cases hhuman : (!e.isHuman) = true
              · rw [if_pos hhuman, if_pos hhuman]
                exact ⟨_, _, _, rfl, rfl, hrec⟩
              · rw [if_neg hhuman, if_neg hhuman]
                obtain ⟨hd, ha⟩ := hrec.accept.scheduleAccepted e.wantsResponse directedPersonaId
                refine ⟨_, _, _, congrArg Except.ok (Prod.mk.eta).symm, ?_, ha⟩
                exact congrArg Except.ok (Prod.ext hd rfl)

theorem Agrees.mute (h : Agrees d d') (muted : Finset PersonaId) :
    Agrees { d with muted } { d' with muted } where
  same := by
    rw [h.same]
  window := ⟨h.window.nodup, h.window.length_le, h.window.canonical, h.window.hasSeen_iff⟩
  window' := ⟨h.window'.nodup, h.window'.length_le, h.window'.canonical, h.window'.hasSeen_iff⟩

theorem Agrees.cancel (h : Agrees d d') : Agrees d.cancel d'.cancel where
  same := by
    rw [h.same]
    rfl
  window := ⟨h.window.nodup, h.window.length_le, h.window.canonical, h.window.hasSeen_iff⟩
  window' := ⟨h.window'.nodup, h.window'.length_le, h.window'.canonical, h.window'.hasSeen_iff⟩

/-- One call answers the same and keeps the directors alike. -/
theorem Agrees.perform (h : Agrees d d') (call : DirectorCall) :
    (d'.perform call).1 = (d.perform call).1 ∧ Agrees (d.perform call).2 (d'.perform call).2 := by
  cases call with
  | schedule event directedPersonaId =>
      rcases h.schedule event directedPersonaId with ⟨e, hd, hd'⟩ | ⟨_, _, _, hd, hd', hnext⟩
      · rw [Director.perform, Director.perform, hd, hd']
        exact ⟨rfl, h⟩
      · rw [Director.perform, Director.perform, hd, hd']
        exact ⟨rfl, hnext⟩
  | setMuted personaId muted =>
      have hp : d'.personas = d.personas := by rw [h.same]
      have hm : d'.muted = d.muted := by rw [h.same]
      rw [Director.perform, Director.perform, Director.setMuted, Director.setMuted, hm]
      by_cases hmem : personaId ∈ d.personas
      · have hmem' : personaId ∈ d'.personas := hp ▸ hmem
        rw [if_neg (not_not.mpr hmem), if_neg (not_not.mpr hmem')]
        cases muted with
        | true =>
            rw [if_pos rfl, if_pos rfl]
            exact ⟨rfl, h.mute (insert personaId d.muted)⟩
        | false =>
            rw [if_neg Bool.false_ne_true, if_neg Bool.false_ne_true]
            exact ⟨rfl, h.mute (d.muted.erase personaId)⟩
      · have hmem' : personaId ∉ d'.personas := hp ▸ hmem
        rw [if_pos hmem, if_pos hmem']
        exact ⟨rfl, h⟩
  | cancel => exact ⟨rfl, h.cancel⟩

/-- **Equivalence.**  No sequence of calls tells the two directors apart. -/
theorem Agrees.run (h : Agrees d d') (calls : List DirectorCall) :
    (d'.run calls).1 = (d.run calls).1 := by
  induction calls generalizing d d' with
  | nil => rfl
  | cons call calls ih =>
      obtain ⟨hanswer, hnext⟩ := h.perform call
      simp only [Director.run, hanswer, ih hnext]

/-! ## The round trip -/

theorem perform_personas (d : Director) (call : DirectorCall) :
    (d.perform call).2.personas = d.personas := by
  cases call with
  | schedule event directedPersonaId =>
      simp only [perform]
      split
      · rfl
      · next hs =>
          rcases schedule_cases hs with ⟨-, rfl⟩ | ⟨e, -, -, -, hd⟩
          · rfl
          · rcases hd with ⟨-, rfl⟩ | ⟨-, -, rfl⟩ | ⟨-, speaker, -, -, rfl⟩
            · rw [recordSeen_frame]
            · rw [recordSeen_frame]
              rfl
            · rw [recordSeen_frame]
              rfl
  | setMuted personaId muted =>
      simp only [perform, Director.setMuted]
      by_cases hmem : personaId ∉ d.personas
      · rw [if_pos hmem]
      · rw [if_neg hmem]
        cases muted <;> rfl
  | cancel => rfl

theorem run_personas (d : Director) (calls : List DirectorCall) :
    (d.run calls).2.personas = d.personas := by
  induction calls generalizing d with
  | nil => rfl
  | cons call calls ih => exact (ih (d.perform call).2).trans (perform_personas d call)

/-- Mute a restored director's personas again: `for (const persona of …)
director.setMuted(persona.id, persona.muted)`. -/
def remute (muted : Finset PersonaId) (personas : List PersonaId) (d : Director) : Director :=
  personas.foldl (fun d p => (d.perform (.setMuted p (p ∈ muted))).2) d

theorem setMuted_eq (muted : Finset PersonaId) {p : PersonaId} (hp : p ∈ d.personas) :
    ∃ muted', (d.perform (.setMuted p (p ∈ muted))).2 = { d with muted := muted' } ∧
      ∀ q, q ∈ muted' ↔ if q = p then q ∈ muted else q ∈ d.muted := by
  by_cases hmuted : p ∈ muted
  · refine ⟨insert p d.muted, by simp [perform, Director.setMuted, hp, hmuted], ?_⟩
    intro q
    by_cases hq : q = p <;> simp [hq, hmuted]
  · refine ⟨d.muted.erase p, by simp [perform, Director.setMuted, hp, hmuted], ?_⟩
    intro q
    by_cases hq : q = p <;> simp [hq, hmuted]

theorem remute_eq (muted : Finset PersonaId) (personas : List PersonaId) (d : Director)
    (hmem : ∀ p ∈ personas, p ∈ d.personas) :
    ∃ muted', remute muted personas d = { d with muted := muted' } ∧
      ∀ q, q ∈ muted' ↔ if q ∈ personas then q ∈ muted else q ∈ d.muted := by
  induction personas generalizing d with
  | nil => exact ⟨d.muted, rfl, by simp⟩
  | cons p personas ih =>
      obtain ⟨m, hd, hm⟩ := setMuted_eq muted (hmem p List.mem_cons_self)
      obtain ⟨m', hd', hm'⟩ := ih { d with muted := m }
        (fun q hq => hmem q (List.mem_cons_of_mem _ hq))
      refine ⟨m', ?_, ?_⟩
      · rw [remute, List.foldl_cons, hd]
        exact hd'
      · intro q
        rw [hm']
        by_cases hq : q ∈ personas
        · simp [hq]
        · rw [if_neg hq, hm]
          simp [hq]

/-- Muting the roster again gives the restored director its mutes back. -/
theorem remute_withoutMutes (h : Sound d) (seen : KeyedTable JsString (Finset JsString)) :
    remute d.muted d.personas (d.withoutMutes seen) = { d with seenByNamespace := seen } := by
  obtain ⟨muted', hd, hmem⟩ := remute_eq d.muted d.personas (d.withoutMutes seen) fun _ hp => hp
  have hmuted : muted' = d.muted := by
    ext q
    rw [hmem]
    by_cases hq : q ∈ d.personas
    · rw [if_pos hq]
    · rw [if_neg hq]
      constructor
      · intro h
        exact absurd h (Finset.notMem_empty q)
      · intro h'
        exact absurd (h.muted_mem q h') hq
  rw [hd, hmuted]
  rfl

/-- **Round trip.**  A fresh director, any sequence of calls, its snapshot as JSON text
and back: restoring with the same roster does not throw, and once the mutes are applied
again the restored director answers every further sequence of calls as the original. -/
theorem snapshot_round_trip (personas : List JsString) (options restoreOptions : Option ℤ)
    (fresh : Director) (calls : List DirectorCall)
    (hfresh : construct personas options none = .ok fresh) :
    let d := (fresh.run calls).2
    d.acceptedHumanEventNumber < safeIntegerBound → d.fallbackIndex < safeIntegerBound →
    (restoreOptions = none ∨ restoreOptions = some (d.maxAutonomousTurns : ℤ)) →
    ∃ parsed restored,
      Json.parse integerFormat (Json.stringify integerFormat d.snapshot) = some parsed ∧
      restore personas parsed restoreOptions = .ok restored ∧
      ∀ further, ((remute d.muted personas restored).run further).1 = (d.run further).1 := by
  intro d hsafe hfallback hoptions
  have hsound : Sound d := (sound_construct hfresh).run (runCounts_of_lt hsafe)
  have hroster : d.personas = personas := by
    rw [run_personas, (construct_fresh hfresh).2.2.choose_spec.2]
  obtain ⟨seen, hrestore, hwindow⟩ := restore_snapshot hsound hsafe hfallback hoptions
  refine ⟨d.snapshot, d.withoutMutes seen, Json.parse_stringify integerFormat d.snapshot_distinct,
    hroster ▸ hrestore, ?_⟩
  rw [← hroster, remute_withoutMutes hsound seen]
  have hagrees : Agrees d { d with seenByNamespace := seen } :=
    ⟨rfl, hsound.toWindow, ⟨hwindow.nodup, hwindow.length_le, hwindow.canonical,
      hwindow.hasSeen_iff⟩⟩
  exact fun further => hagrees.run further

/-- A human message that wants a response. -/
def greeting : VerifiedDirectorEvent where
  eventNamespace := ofString "room"
  eventId := ofString "request-1"
  isHuman := true
  text := ofString "hello"
  wantsResponse := true
  namespace_canonical := ⟨by decide, by decide, fun m hm => by cases hm; decide⟩
  eventId_canonical := ⟨by decide, by decide, fun m hm => by cases hm; decide⟩

theorem snapshot_round_trip_greeting :
    ∃ parsed restored,
      Json.parse integerFormat (Json.stringify integerFormat
        (Director.run { personas := [ofString "ada", ofString "bob"], maxAutonomousTurns := 10 }
          [.schedule (some greeting) none]).2.snapshot) = some parsed ∧
      restore [ofString "ada", ofString "bob"] parsed none = .ok restored := by
  have hfresh : construct [ofString "ada", ofString "bob"] none none =
      .ok { personas := [ofString "ada", ofString "bob"], maxAutonomousTurns := 10 } := by rfl
  obtain ⟨parsed, restored, hparsed, hrestored, -⟩ :=
    snapshot_round_trip [ofString "ada", ofString "bob"] none none _
      [.schedule (some greeting) none] hfresh (by decide) (by decide) (.inl rfl)
  exact ⟨parsed, restored, hparsed, hrestored⟩

end Director
end GreenRoom.Core
