import GreenRoom.Lib.TransitionSystem
import Mathlib.Data.List.Basic

/-!
# Threads that take locks

A method takes locks in nested sections, branches and loops, each at a site of its own; two
sites may take the same lock.  What one call of a method does is a trace of acquisitions and
releases at sites, and threads run their traces interleaved: a lock is taken when no other
thread holds it.  Who waits at a site, inside a section of another one, runs a method that
nests the two; and who is inside a section has entered it.

## Main definitions

* `Locking`, `Locking.Trace` — what methods do with locks, and the traces of their calls.
* `lockSystem` — threads that run calls of methods.
* `LockThread.Holds`, `LockThread.WaitsFor` — the locks of a thread, whatever the site.
* `headsFor l l'` — a thread is inside `l` and takes `l'` before it leaves `l`.

## Main results

* `nests_of_next` — who is about to enter another site runs a method that nests the two.
* `LockStep.of_mem_held` — who is inside a section was before, or enters it in this step.
-/

/-- What a thread does at a site. -/
inductive LockOp (L : Type)
  | acquire (l : L)
  | release (l : L)
  deriving DecidableEq

/-- What a method does with locks. -/
inductive Locking (L : Type)
  | skip
  | seq (p q : Locking L)
  /-- A branch on data. -/
  | either (p q : Locking L)
  /-- A loop. -/
  | many (p : Locking L)
  | withLock (l : L) (body : Locking L)

namespace Locking

variable {L : Type} [DecidableEq L] {l l' : L} {p q : Locking L} {t u : List (LockOp L)}

/-- What a call of the method does to the locks. -/
inductive Trace : Locking L → List (LockOp L) → Prop
  | skip : Trace skip []
  | seq {p q : Locking L} {t u : List (LockOp L)} : Trace p t → Trace q u →
      Trace (.seq p q) (t ++ u)
  | left {p q : Locking L} {t : List (LockOp L)} : Trace p t → Trace (.either p q) t
  | right {p q : Locking L} {t : List (LockOp L)} : Trace q t → Trace (.either p q) t
  | done {p : Locking L} : Trace (.many p) []
  | again {p : Locking L} {t u : List (LockOp L)} : Trace p t → Trace (.many p) u →
      Trace (.many p) (t ++ u)
  | withLock {l : L} {p : Locking L} {t : List (LockOp L)} : Trace p t →
      Trace (.withLock l p) (.acquire l :: (t ++ [.release l]))

/-- Some call of the method comes to the site. -/
def acquires (l : L) : Locking L → Bool
  | .skip => false
  | .seq p q | .either p q => p.acquires l || q.acquires l
  | .many p => p.acquires l
  | .withLock m p => m = l || p.acquires l

/-- Some call of the method comes to `l'` inside a section of `l`. -/
def nests (l l' : L) : Locking L → Bool
  | .skip => false
  | .seq p q | .either p q => p.nests l l' || q.nests l l'
  | .many p => p.nests l l'
  | .withLock m p => (m = l && p.acquires l') || p.nests l l'

theorem Trace.acquires (h : Trace p t) (hmem : .acquire l ∈ t) : p.acquires l := by
  induction h with
  | skip | done => cases hmem
  | seq _ _ ihp ihq =>
      simp only [Locking.acquires, Bool.or_eq_true]
      exact (List.mem_append.mp hmem).imp ihp ihq
  | left _ ih | right _ ih => simp [Locking.acquires, ih hmem]
  | again _ _ ihp ihq => exact (List.mem_append.mp hmem).elim ihp ihq
  | @withLock m p t _ ih =>
      simp only [Locking.acquires, Bool.or_eq_true, decide_eq_true_eq]
      obtain heq | hmem := List.mem_cons.mp hmem
      · exact .inl (LockOp.acquire.inj heq).symm
      · obtain hmem | hmem := List.mem_append.mp hmem
        · exact .inr (ih hmem)
        · cases List.mem_singleton.mp hmem

end Locking

section Held

variable {L : Type} [DecidableEq L] {l l' : L} {p : Locking L} {t u : List (LockOp L)}
  {held : List L}

/-- The sections that are open after the operations; one entered twice is open twice. -/
def heldAfter : List L → List (LockOp L) → List L
  | held, [] => held
  | held, .acquire l :: t => heldAfter (l :: held) t
  | held, .release l :: t => heldAfter (held.erase l) t

/-- A section of `l` is open, and `l'` is taken before it is closed. -/
def headsFor (l l' : L) : List L → List (LockOp L) → Bool
  | _, [] => false
  | held, .acquire m :: t => held.contains l && (m = l' || headsFor l l' (m :: held) t)
  | held, .release m :: t => held.contains l && headsFor l l' (held.erase m) t

theorem heldAfter_append : heldAfter held (t ++ u) = heldAfter (heldAfter held t) u := by
  induction t generalizing held with
  | nil => rfl
  | cons op t ih => cases op <;> exact ih

/-- A call gives back what it takes. -/
theorem Locking.Trace.balanced (h : p.Trace t) : heldAfter held t = held := by
  induction h generalizing held with
  | skip | done => rfl
  | seq _ _ ihp ihq | again _ _ ihp ihq => rw [heldAfter_append, ihp, ihq]
  | left _ ih | right _ ih => exact ih
  | @withLock m p t _ ih =>
      change heldAfter (m :: held) (t ++ [.release m]) = held
      rw [heldAfter_append, ih]
      exact List.erase_cons_head ..

theorem mem_of_headsFor (h : headsFor l l' held t) : l ∈ held := by
  cases t with
  | nil => cases h
  | cons op t =>
      cases op <;>
      · simp only [headsFor, Bool.and_eq_true, List.contains_iff_mem] at h
        exact h.1

theorem acquire_mem_of_headsFor (h : headsFor l l' held t) : .acquire l' ∈ t := by
  induction t generalizing held with
  | nil => cases h
  | cons op t ih =>
      cases op with
      | acquire m =>
          simp only [headsFor, Bool.and_eq_true, Bool.or_eq_true, decide_eq_true_eq] at h
          obtain rfl | h := h.2
          · exact List.mem_cons_self
          · exact List.mem_cons_of_mem _ (ih h)
      | release m =>
          simp only [headsFor, Bool.and_eq_true] at h
          exact List.mem_cons_of_mem _ (ih h.2)

theorem headsFor_append (h : headsFor l l' held (t ++ u)) :
    headsFor l l' held t ∨ headsFor l l' (heldAfter held t) u := by
  induction t generalizing held with
  | nil => exact .inr h
  | cons op t ih =>
      cases op with
      | acquire m =>
          simp only [List.cons_append, headsFor, Bool.and_eq_true, Bool.or_eq_true] at h ⊢
          obtain ⟨hheld, hnow | hlater⟩ := h
          · exact .inl ⟨hheld, .inl hnow⟩
          · exact (ih hlater).imp (fun h => ⟨hheld, .inr h⟩) id
      | release m =>
          simp only [List.cons_append, headsFor, Bool.and_eq_true] at h ⊢
          exact (ih h.2).imp (fun hlater => ⟨h.1, hlater⟩) id

/-- A call that is on the way from one site to another nests the two. -/
theorem Locking.Trace.nests_of_headsFor (h : p.Trace t) (hheld : l ∉ held)
    {before after : List (LockOp L)} (hsplit : t = before ++ after)
    (hheads : headsFor l l' (heldAfter held before) after) : p.nests l l' := by
  induction h generalizing held before after with
  | skip | done =>
      obtain ⟨rfl, rfl⟩ := List.append_eq_nil_iff.mp hsplit.symm
      cases hheads
  | left _ ih | right _ ih => simp [Locking.nests, ih hheld hsplit hheads]
  | @seq p q t u hp hq ihp ihq =>
      simp only [Locking.nests, Bool.or_eq_true]
      obtain ⟨c, rfl, rfl⟩ | ⟨c, rfl, rfl⟩ := List.append_eq_append_iff.mp hsplit
      · rw [heldAfter_append, hp.balanced] at hheads
        exact .inr (ihq hheld rfl hheads)
      · obtain hheads | hheads := headsFor_append hheads
        · exact .inl (ihp hheld rfl hheads)
        · rw [← heldAfter_append, hp.balanced] at hheads
          exact absurd (mem_of_headsFor hheads) hheld
  | @again p t u hp hq ihp ihq =>
      obtain ⟨c, rfl, rfl⟩ | ⟨c, rfl, rfl⟩ := List.append_eq_append_iff.mp hsplit
      · rw [heldAfter_append, hp.balanced] at hheads
        exact ihq hheld rfl hheads
      · obtain hheads | hheads := headsFor_append hheads
        · exact ihp hheld rfl hheads
        · rw [← heldAfter_append, hp.balanced] at hheads
          exact absurd (mem_of_headsFor hheads) hheld
  | @withLock m p t hp ih =>
      simp only [Locking.nests, Bool.or_eq_true, Bool.and_eq_true, decide_eq_true_eq]
      cases before with
      | nil => exact absurd (mem_of_headsFor hheads) hheld
      | cons op before =>
          rw [List.cons_append, List.cons.injEq] at hsplit
          obtain ⟨rfl, hsplit⟩ := hsplit
          by_cases hm : m = l
          · have hmem : .acquire l' ∈ t ++ [.release m] :=
              hsplit ▸ List.mem_append_right _ (acquire_mem_of_headsFor hheads)
            refine .inl ⟨hm, hp.acquires ((List.mem_append.mp hmem).resolve_right ?_)⟩
            simp
          · refine .inr ?_
            have hheld' : l ∉ m :: held := by simp [hheld, Ne.symm hm]
            obtain ⟨c, rfl, hc⟩ | ⟨c, rfl, rfl⟩ := List.append_eq_append_iff.mp hsplit
            · -- the split is after the body
              change headsFor l l' (heldAfter (m :: held) (t ++ c)) after at hheads
              rw [heldAfter_append, hp.balanced] at hheads
              obtain rfl | ⟨rfl, rfl⟩ : c = [] ∨ c = [.release m] ∧ after = [] := by
                cases c with
                | nil => exact .inl rfl
                | cons op c =>
                    rw [List.cons_append, List.cons.injEq] at hc
                    obtain ⟨rfl, hc⟩ := hc
                    obtain ⟨rfl, rfl⟩ := List.append_eq_nil_iff.mp hc.symm
                    exact .inr ⟨rfl, rfl⟩
              · exact absurd (mem_of_headsFor hheads) hheld'
              · cases hheads
            · obtain hheads | hheads := headsFor_append hheads
              · exact ih hheld' rfl hheads
              · change headsFor l l' (heldAfter (heldAfter (m :: held) before) c) _
                  at hheads
                rw [← heldAfter_append, hp.balanced] at hheads
                exact absurd (mem_of_headsFor hheads) hheld'

end Held

/-! ## Threads -/

/-- A thread runs a call of a method: the sections it is inside, and what is left of the
call. -/
structure LockThread (α L : Type) where
  method : α
  held : List L := []
  rest : List (LockOp L)

/-- The threads that were started, by their number. -/
abbrev LockState (α L : Type) := ℕ → Option (LockThread α L)

inductive LockLabel (α L : Type)
  | call (thread : ℕ) (method : α) (trace : List (LockOp L))
  | acquire (thread : ℕ) (l : L)
  | release (thread : ℕ) (l : L)

section System

variable {α L K : Type} [DecidableEq L] {lock : L → K} {reentrant : K → Bool}
  {program : α → Locking L} {s t : LockState α L} {label : LockLabel α L} {l l' : L}

/-- One step of a thread.  A lock is taken when no other thread holds it; who holds it may
take it again if it is reentrant. -/
inductive LockStep (lock : L → K) (reentrant : K → Bool) (program : α → Locking L) :
    LockState α L → LockLabel α L → LockState α L → Prop
  | call {s : LockState α L} (i : ℕ) (method : α) (trace : List (LockOp L))
      (fresh : s i = none) (possible : (program method).Trace trace) :
      LockStep lock reentrant program s (.call i method trace)
        (Function.update s i (some { method, rest := trace }))
  | acquire {s : LockState α L} (i : ℕ) (l : L) (thread : LockThread α L)
      (rest : List (LockOp L)) (running : s i = some thread)
      (next : thread.rest = .acquire l :: rest)
      (free : ∀ j other, s j = some other → ∀ m ∈ other.held, lock m = lock l →
        j = i ∧ reentrant (lock l)) :
      LockStep lock reentrant program s (.acquire i l)
        (Function.update s i (some { thread with held := l :: thread.held, rest }))
  | release {s : LockState α L} (i : ℕ) (l : L) (thread : LockThread α L)
      (rest : List (LockOp L)) (running : s i = some thread)
      (next : thread.rest = .release l :: rest) :
      LockStep lock reentrant program s (.release i l)
        (Function.update s i (some { thread with held := thread.held.erase l, rest }))

/-- Calls of the methods, interleaved. -/
def lockSystem (lock : L → K) (reentrant : K → Bool) (program : α → Locking L) :
    TransitionSystem (LockState α L) (LockLabel α L) where
  init s := s = fun _ => none
  step := LockStep lock reentrant program

/-- The thread holds a lock. -/
def LockThread.Holds (lock : L → K) (thread : LockThread α L) (k : K) : Prop :=
  ∃ l ∈ thread.held, lock l = k

/-- The thread waits for a lock. -/
def LockThread.WaitsFor (lock : L → K) (thread : LockThread α L) (k : K) : Prop :=
  ∃ l rest, thread.rest = .acquire l :: rest ∧ lock l = k

/-- **Who is inside a section** was before the step, or enters it. -/
theorem LockStep.of_mem_held (hst : LockStep lock reentrant program s label t) {i : ℕ}
    {after : LockThread α L} (hafter : t i = some after) (hmem : l ∈ after.held) :
    ∃ before, s i = some before ∧ before.method = after.method ∧
      (l ∈ before.held ∨ label = .acquire i l) := by
  cases hst with
  | call j method trace fresh =>
      by_cases hij : i = j
      · subst hij
        rw [Function.update_self, Option.some_inj] at hafter
        subst hafter
        cases hmem
      · rw [Function.update_of_ne hij] at hafter
        exact ⟨after, hafter, rfl, .inl hmem⟩
  | acquire j m thread rest running next =>
      by_cases hij : i = j
      · subst hij
        rw [Function.update_self, Option.some_inj] at hafter
        subst hafter
        refine ⟨thread, running, rfl, ?_⟩
        obtain rfl | hmem := List.mem_cons.mp hmem
        · exact .inr rfl
        · exact .inl hmem
      · rw [Function.update_of_ne hij] at hafter
        exact ⟨after, hafter, rfl, .inl hmem⟩
  | release j m thread rest running next =>
      by_cases hij : i = j
      · subst hij
        rw [Function.update_self, Option.some_inj] at hafter
        subst hafter
        exact ⟨thread, running, rfl, .inl (List.mem_of_mem_erase hmem)⟩
      · rw [Function.update_of_ne hij] at hafter
        exact ⟨after, hafter, rfl, .inl hmem⟩

/-- What a thread is inside of is what its call has entered so far. -/
def Underway (program : α → Locking L) (thread : LockThread α L) : Prop :=
  ∃ done, (program thread.method).Trace (done ++ thread.rest) ∧ thread.held = heldAfter [] done

theorem underway_inductive : (lockSystem lock reentrant program).Inductive
    fun s => ∀ i thread, s i = some thread → Underway program thread where
  init s hs := by
    intro i thread hthread
    rw [hs] at hthread
    cases hthread
  step s label t hs hst := by
    intro i thread hthread
    cases hst with
    | call j method trace fresh possible =>
        rw [Function.update_apply] at hthread
        split at hthread
        · obtain rfl := Option.some.inj hthread
          exact ⟨[], possible, rfl⟩
        · exact hs i thread hthread
    | acquire j m old rest running next | release j m old rest running next =>
        rw [Function.update_apply] at hthread
        split at hthread
        · obtain rfl := Option.some.inj hthread
          obtain ⟨done, htrace, hheld⟩ := hs j old running
          rw [next, List.append_cons] at htrace
          refine ⟨_, htrace, ?_⟩
          rw [heldAfter_append, ← hheld]
          rfl
        · exact hs i thread hthread

/-- **Who is about to enter another site** runs a method that nests the two. -/
theorem nests_of_next (hs : (lockSystem lock reentrant program).Reachable s) {i : ℕ}
    {thread : LockThread α L} (hthread : s i = some thread) (hheld : l ∈ thread.held)
    {rest : List (LockOp L)} (hnext : thread.rest = .acquire l' :: rest) :
    (program thread.method).nests l l' := by
  obtain ⟨done, htrace, hdone⟩ := underway_inductive.reachable hs i thread hthread
  refine htrace.nests_of_headsFor List.not_mem_nil rfl ?_
  rw [← hdone, hnext]
  simp [headsFor, hheld]

end System

/-! ## A thread that runs undisturbed -/

section Undisturbed

variable {α L K : Type} [DecidableEq L] [DecidableEq K] {lock : L → K} {reentrant : K → Bool}
  {program : α → Locking L} {s : LockState α L}

/-- The operations can be run while other threads hold `others`. -/
def runsAlone (lock : L → K) (reentrant : K → Bool) (others : List K) :
    List L → List (LockOp L) → Bool
  | _, [] => true
  | held, .acquire l :: t =>
      !others.contains (lock l) && (!(held.map lock).contains (lock l) || reentrant (lock l)) &&
        runsAlone lock reentrant others (l :: held) t
  | held, .release l :: t => runsAlone lock reentrant others (held.erase l) t

/-- A thread gets on with its call as long as the locks are free, and the steps allowed. -/
theorem run_alone {ok : LockState α L → LockLabel α L → Prop} {others : List K} {i : ℕ}
    {method : α} {rest : List (LockOp L)} (done : List (LockOp L)) {held : List L}
    (hrunning : s i = some { method, held, rest := done ++ rest })
    (hothers : ∀ j other, j ≠ i → s j = some other → ∀ l ∈ other.held, lock l ∈ others)
    (hok : ∀ held rest l, ok (Function.update s i (some { method, held, rest })) (.acquire i l) ∧
      ok (Function.update s i (some { method, held, rest })) (.release i l))
    (halone : runsAlone lock reentrant others held done) :
    ∃ ls, ((lockSystem lock reentrant program).restrict ok).Run s ls
      (Function.update s i (some { method, held := heldAfter held done, rest })) := by
  induction done generalizing s held with
  | nil =>
      have hsame : Function.update s i (some { method, held, rest }) = s := by
        have hrunning : s i = some { method, held, rest } := hrunning
        rw [← hrunning, Function.update_eq_self]
      refine ⟨[], ?_⟩
      change ((lockSystem lock reentrant program).restrict ok).Run s []
        (Function.update s i (some { method, held, rest }))
      rw [hsame]
      exact .nil s
  | cons op done ih =>
      have hnow :
        Function.update s i (some { method, held, rest := op :: (done ++ rest) }) = s := by
        have hrunning : s i = some { method, held, rest := op :: (done ++ rest) } := hrunning
        rw [← hrunning, Function.update_eq_self]
      have hnext : ∀ (t : LockState α L) (held' : List L),
          t = Function.update s i (some { method, held := held', rest := done ++ rest }) →
          heldAfter held' done = heldAfter held (op :: done) →
          runsAlone lock reentrant others held' done →
          ∃ ls, ((lockSystem lock reentrant program).restrict ok).Run t ls (Function.update s i
            (some { method, held := heldAfter held (op :: done), rest })) := by
        rintro t held' rfl hafter halone
        rw [← hafter]
        have hself := Function.update_self i
          (some { method, held := held', rest := done ++ rest }) s
        obtain ⟨ls, hrun⟩ := ih hself (fun j other hj hother => by
          rw [Function.update_of_ne hj] at hother
          exact hothers j other hj hother) (fun held rest l => by
            rw [Function.update_idem]
            exact hok held rest l) halone
        rw [Function.update_idem] at hrun
        exact ⟨ls, hrun⟩
      cases op with
      | acquire l =>
          simp only [runsAlone, Bool.and_eq_true, Bool.not_eq_true', Bool.or_eq_true] at halone
          obtain ⟨⟨hfree, hagain⟩, halone⟩ := halone
          obtain ⟨ls, hrun⟩ := hnext _ (l :: held) rfl rfl halone
          have hallowed : ok s (.acquire i l) := hnow ▸ (hok held _ l).1
          refine ⟨_, .cons ⟨hallowed, LockStep.acquire i l _ (done ++ rest) hrunning rfl
            fun j other hother m hmem hlock => ?_⟩ hrun⟩
          by_cases hj : j = i
          · subst hj
            obtain rfl := Option.some.inj (hrunning.symm.trans hother)
            refine ⟨rfl, hagain.resolve_left fun hnot => ?_⟩
            have hin : (held.map lock).contains (lock l) :=
              List.contains_iff_mem.mpr (List.mem_map.mpr ⟨m, hmem, hlock⟩)
            rw [hnot] at hin
            cases hin
          · have hin := hothers j other hj hother m hmem
            rw [hlock, ← List.contains_iff_mem, hfree] at hin
            cases hin
      | release l =>
          obtain ⟨ls, hrun⟩ := hnext _ (held.erase l) rfl rfl halone
          have hallowed : ok s (.release i l) := hnow ▸ (hok held _ l).2
          exact ⟨_, .cons ⟨hallowed, LockStep.release i l _ (done ++ rest) hrunning rfl⟩ hrun⟩

end Undisturbed
