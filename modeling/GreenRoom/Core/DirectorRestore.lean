import GreenRoom.Core.DirectorSnapshot

/-!
# Every director is sound

Whatever snapshot a director is restored from, the checks leave one of which the invariant
holds: constructed with a snapshot or without, and called in any way.

## Main results

* `sound_restoreSnapshot` — a snapshot that passes the checks restores a sound director.
* `sound_of_construct` — every director that is constructed is sound.
-/

namespace GreenRoom.Core

open JsString

namespace Director

variable {d d' : Director}

/-! ## The selections -/

/-- The selections that were read are those of personas, under numbers of their own. -/
theorem restoreSelections_spec {personas : List PersonaId} {accepted : ℕ}
    {entries : List (Json ℤ)} {table result : KeyedTable PersonaId ℕ} {numbers : Finset ℕ}
    (htable : ∀ p n, table.lookup p = some n → p ∈ personas ∧ 0 < n ∧ n ≤ accepted ∧ n ∈ numbers)
    (hdistinct : ∀ p q n, table.lookup p = some n → table.lookup q = some n → p = q)
    (h : restoreSelections personas accepted entries table numbers = .ok result) :
    (∀ p n, result.lookup p = some n → p ∈ personas ∧ 0 < n ∧ n ≤ accepted) ∧
      ∀ p q n, result.lookup p = some n → result.lookup q = some n → p = q := by
  induction entries generalizing table numbers with
  | nil =>
      cases h
      refine ⟨fun p n hp => ?_, hdistinct⟩
      obtain ⟨hmem, hpos, hle, -⟩ := htable p n hp
      exact ⟨hmem, hpos, hle⟩
  | cons entry entries ih =>
      simp only [restoreSelections, typeError] at h
      split at h
      · next personaId number =>
          split at h
          · cases h
          · next hnew =>
              rw [not_or, not_not] at hnew
              split at h
              · cases h
              · next eventNumber _ =>
                  split at h
                  · cases h
                  · next hnumber =>
                      rw [not_or, not_or, not_lt] at hnumber
                      obtain ⟨hzero, hle, hfresh⟩ := hnumber
                      refine ih (fun p n hp => ?_) (fun p q n hp hq => ?_) h
                      · rw [KeyedTable.lookup_set] at hp
                        split at hp
                        · next heq =>
                            cases hp
                            exact ⟨heq ▸ hnew.1, Nat.pos_of_ne_zero hzero, hle,
                              Finset.mem_insert_self ..⟩
                        · obtain ⟨hmem, hpos, hle, hold⟩ := htable p n hp
                          exact ⟨hmem, hpos, hle, Finset.mem_insert_of_mem hold⟩
                      · rw [KeyedTable.lookup_set] at hp hq
                        split at hp <;> split at hq
                        · next hp' hq' => exact hp'.trans hq'.symm
                        · cases hp
                          exact absurd (htable q _ hq).2.2.2 hfresh
                        · cases hq
                          exact absurd (htable p _ hp).2.2.2 hfresh
                        · exact hdistinct p q n hp hq
      · cases h

/-- The latest selection is one of them, and none is later. -/
theorem latestSelection_spec {entries : List ((_ : PersonaId) × ℕ)} {e : (_ : PersonaId) × ℕ}
    (h : latestSelection entries = some e) : e ∈ entries ∧ ∀ f ∈ entries, f.2 ≤ e.2 := by
  have hfold : ∀ (l : List ((_ : PersonaId) × ℕ)) (f : (_ : PersonaId) × ℕ),
      let e := l.foldl (fun latest entry => if latest.2 < entry.2 then entry else latest) f
      e ∈ f :: l ∧ ∀ g ∈ f :: l, g.2 ≤ e.2 := by
    intro l
    induction l with
    | nil => simp
    | cons g l ih =>
        intro f
        obtain ⟨hmem, hmax⟩ := ih (if f.2 < g.2 then g else f)
        have hfront : f.2 ≤ (if f.2 < g.2 then g else f).2 ∧
            g.2 ≤ (if f.2 < g.2 then g else f).2 := by
          split <;> omega
        rw [List.foldl_cons]
        refine ⟨?_, fun k hk => ?_⟩
        · obtain heq | hl := List.mem_cons.mp hmem
          · rw [heq]
            split <;> simp
          · simp [hl]
        · have hbest := hmax _ List.mem_cons_self
          obtain rfl | hk := List.mem_cons.mp hk
          · exact hfront.1.trans hbest
          · obtain rfl | hk := List.mem_cons.mp hk
            · exact hfront.2.trans hbest
            · exact hmax k (List.mem_cons_of_mem _ hk)
  cases entries with
  | nil => cases h
  | cons f l =>
      cases h
      exact hfold l f

/-- The history that was checked is one of selections in rotation. -/
theorem checkSelectionHistory_spec (h : d.checkSelectionHistory = .ok ()) :
    d.lastSelectedAt.entries.length ≤ d.autonomousTurns ∧
      ((d.autonomousTurns = 0 ∧ d.fallbackIndex = 0) ∨
        ∃ p n, d.lastSelectedAt.lookup p = some n ∧ d.autonomousTurns ≤ n ∧
          (∀ q m, d.lastSelectedAt.lookup q = some m → m ≤ n) ∧
          d.fallbackIndex = (d.personas.idxOf p + 1) % d.personas.length) := by
  simp only [checkSelectionHistory, typeError] at h
  split at h
  · cases h
  · next hsize =>
      rw [not_or, not_lt] at hsize
      refine ⟨hsize.1, ?_⟩
      split at h
      · next hzero =>
          split at h
          · cases h
          · next hindex => exact .inl ⟨hzero, not_not.mp hindex⟩
      · split at h
        · cases h
        · next latest hlatest =>
            obtain ⟨hmem, hmax⟩ := latestSelection_spec hlatest
            split at h
            · cases h
            · next hturns =>
                split at h
                · cases h
                · next hindex =>
                    refine .inr ⟨latest.1, latest.2, KeyedTable.mem_entries_iff.mp hmem,
                      not_lt.mp hturns, fun q m hq => ?_, not_not.mp hindex⟩
                    exact hmax ⟨q, m⟩ (KeyedTable.mem_entries_iff.mpr hq)

/-! ## The window -/

/-- The identities that were read fill the window, and nothing else. -/
theorem restoreSeen_spec {entries : List (Json ℤ)} (hwindow : Window d)
    (h : restoreSeen entries d = .ok d') :
    Window d' ∧ d'.seenOrder.length =
        min (d.seenOrder.length + entries.length) maxTrackedEventIdentities ∧
      d' = { d with seenByNamespace := d'.seenByNamespace, seenOrder := d'.seenOrder } := by
  induction entries generalizing d with
  | nil =>
      cases h
      refine ⟨hwindow, ?_, rfl⟩
      have hle := hwindow.length_le
      simp only [List.length_nil]
      omega
  | cons entry entries ih =>
      simp only [restoreSeen, typeError] at h
      split at h
      · next first second =>
          split at h
          · cases h
          · next eventNamespace hnamespace =>
              split at h
              · cases h
              · next eventId hid =>
                  split at h
                  · cases h
                  · next hnew =>
                      have hcanonical : ∀ {v : Option JsString} {field : String} {m : ℕ}
                          {r : JsString}, requireCanonicalIdentifier v field m = .ok r →
                          IsCanonical (some m) r := by
                        intro v field m r hv
                        cases v with
                        | none => cases hv
                        | some v =>
                            obtain ⟨rfl, hcanonical⟩ := isCanonical_of_require hv
                            exact hcanonical
                      have hunseen : d.hasSeen (eventNamespace, eventId) = false := by
                        simpa using hnew
                      have hnext := hwindow.recordSeen hunseen (hcanonical hnamespace)
                        (hcanonical hid)
                      have hlength := length_recordSeen hwindow (eventNamespace, eventId)
                      obtain ⟨hresult, hlen, hframe⟩ := ih hnext h
                      refine ⟨hresult, ?_, ?_⟩
                      · rw [hlen, hlength, List.length_cons]
                        omega
                      · rw [hframe, recordSeen_frame]
      · cases h

/-! ## The whole snapshot -/

/-- A check that throws was passed. -/
theorem ite_typeError_bind {α β : Type} {c : Prop} [Decidable c] {message : String}
    {f : α → Except JsError β} {x : Except JsError β} {b : β} :
    (if c then typeError message >>= f else x) = .ok b ↔ ¬ c ∧ x = .ok b := by
  split
  · next hc => exact iff_of_false (by rintro ⟨⟩) fun h => h.1 hc
  · next hc => simp [hc]

/-- **A snapshot that passes the checks** restores a sound director. -/
theorem sound_restoreSnapshot {personas : List PersonaId} {budget : ℕ} {s : Json ℤ}
    (hcanonical : ∀ p ∈ personas, IsCanonical none p) (hnodup : personas.Nodup)
    (hbudget : budget < safeIntegerBound)
    (h : restoreSnapshot s { personas, maxAutonomousTurns := budget } = .ok d) : Sound d := by
  unfold restoreSnapshot at h
  split at h
  · simp only [ite_typeError_bind, Except.bind_eq_ok] at h
    obtain ⟨-, autonomousTurns, -, accepted, -, hturns, fallbackIndex, -, -, h⟩ := h
    split at h
    · simp only [ite_typeError_bind, Except.bind_eq_ok, Except.ok.injEq, exists_eq_left'] at h
      obtain ⟨-, table, htable, ⟨⟩, hhistory, hseen, h⟩ := h
      obtain ⟨hselected, hdistinct⟩ := restoreSelections_spec (by simp) (by simp) htable
      obtain ⟨hsize, hrotation⟩ := checkSelectionHistory_spec hhistory
      obtain ⟨hwindow, hlength, hframe⟩ := restoreSeen_spec
        (by constructor <;> simp [hasSeen, holds]) h
      rw [hframe]
      refine ⟨⟨hwindow.nodup, hwindow.length_le, hwindow.canonical, hwindow.hasSeen_iff⟩,
        hcanonical, hnodup, hbudget, by simp, not_lt.mp hturns, hselected, hdistinct, hsize,
        hrotation, ?_⟩
      simp only [List.length_nil] at hlength ⊢
      rw [hlength]
      omega
    · simp only [Except.bind_eq_ok] at h
      obtain ⟨_, hthrown, -⟩ := h
      cases hthrown
  · simp only [ite_typeError_bind, Except.bind_eq_ok] at h
    obtain ⟨-, _, -, _, -, -, _, -, -, h⟩ := h
    split at h <;> simp only [Except.bind_eq_ok] at h
    · obtain ⟨_, -, _, hthrown, -⟩ := h
      cases hthrown
    · obtain ⟨_, hthrown, -⟩ := h
      cases hthrown

/-- **Every director that is constructed is sound**, from any snapshot or none. -/
theorem sound_of_construct {personas : List JsString} {options : Option ℤ}
    {snapshot : Option (Json ℤ)} (h : construct personas options snapshot = .ok d) : Sound d := by
  cases snapshot with
  | none => exact sound_construct h
  | some s =>
      simp only [construct, Except.bind_eq_ok] at h
      obtain ⟨roster, hroster, budget, hbudget, h⟩ := h
      obtain ⟨rfl, hcanonical, hnodup⟩ := (requireRoster_iff personas roster).mp hroster
      refine sound_restoreSnapshot hcanonical hnodup ?_ h
      simp only [requireBudget, typeError] at hbudget
      split at hbudget
      · cases hbudget
      · next n hn =>
          split at hbudget
          · cases hbudget
          · cases hbudget
            exact safeNonNegative_lt hn

end Director
end GreenRoom.Core
