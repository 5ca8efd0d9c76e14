import GreenRoom.Lib.Locks

/-!
# The order of the two locks

The provider registry has a lock, and the database another one, which is recursive.
`beginNetwork` runs its closure, which takes the database's, under the registry's; a batch
that selects a room tells the registry under the database's.  Everything else takes the two
one after the other.

## Main definitions

* `NativeSite` — where the two locks are taken; `beginNetwork` is told from the rest of the
  registry.
* `startClosure`, `executeBatch`, … — what the methods do with the two locks.
* `nativeLocks` — the threads of the app.
* `LocksApart` — a batch that selects a room and the beginning of a network task keep apart.

## Main results

* `kept_apart` — while such a batch is in the database, nobody is in `beginNetwork`.
* `lock_order` — so no two threads wait for each other.
-/

namespace GreenRoom.Iphone.LockOrder

/-- `ProviderTaskRegistry.lock` and `GreenRoomDatabaseStore.serializationLock`. -/
inductive NativeLock
  | registry
  | serialization
  deriving DecidableEq

namespace NativeLock

/-- An `NSLock` and an `NSRecursiveLock`. -/
def recursive : NativeLock → Bool
  | .registry => false
  | .serialization => true

end NativeLock

/-- Where a method takes one of the two. -/
inductive NativeSite
  /-- Any method of the registry but `beginNetwork`. -/
  | registry
  | beginNetwork
  | serialization
  deriving DecidableEq

namespace NativeSite

def lock : NativeSite → NativeLock
  | .registry | .beginNetwork => .registry
  | .serialization => .serialization

end NativeSite

/-! ## The database -/

/-- A method of `GreenRoomDatabaseStore`. -/
def storeMethod : Locking NativeSite := .withLock .serialization .skip

/-- A method of `GreenRoomCredentialLifecycle`, whose `operationLock` is the database's. -/
def credentialMethod : Locking NativeSite := .withLock .serialization (.many storeMethod)

def withDatabaseAuthority (operation : Locking NativeSite) : Locking NativeSite :=
  .withLock .serialization (.either .skip operation)

/-- The mode of the room is read, and the credentials are reconciled once. -/
def withReconciledDatabase (operation : Locking NativeSite) : Locking NativeSite :=
  .withLock .serialization <| .seq (.either .skip storeMethod) <| .either .skip <|
    .seq (.either .skip (.seq credentialMethod storeMethod)) operation

/-! ## The registry -/

/-- The closure `cancellation` of an entry; the one of `listModels` leaves the database
alone. -/
def cancellationClosure : Locking NativeSite := .either .skip (withDatabaseAuthority storeMethod)

/-- What is told the entries that a method dropped, then to those it promoted. -/
def afterwards (start : Locking NativeSite) : Locking NativeSite :=
  .seq (.many cancellationClosure) (.many start)

def updateAvailability : Locking NativeSite :=
  .seq (.withLock .registry .skip) (.many cancellationClosure)

/-- `cancel`, also as `failBeforeStart` and `expire`. -/
def cancelEntry (start : Locking NativeSite) : Locking NativeSite :=
  .seq (.withLock .registry .skip) (afterwards start)

/-- The closure `withAuthority` of `generate` and `listModels`. -/
def authorityClosure : Locking NativeSite :=
  withReconciledDatabase (.seq storeMethod (.withLock .serialization (.many storeMethod)))

/-- The closure `start` of an entry; the entries it promotes are started by it, to the given
depth. -/
def startClosure : ℕ → Locking NativeSite
  | 0 => .skip
  | depth + 1 =>
      -- `afterCredentialResolution` throws, or `beginNetwork` is called and may throw
      .either (cancelEntry (startClosure depth)) <|
        .seq (.withLock .beginNetwork (.either .skip authorityClosure)) <|
          .either (afterwards (startClosure depth)) (cancelEntry (startClosure depth))

/-- `generate` and `listModels`: snapshot, authority, `install`, and the start of an entry
that gets a slot; a command that is refused is failed. -/
def generate (depth : ℕ) : Locking NativeSite :=
  .seq (.withLock .registry .skip) <| .either .skip <|
    .seq (withReconciledDatabase storeMethod) <|
      .seq (.either .skip (.seq (.withLock .registry .skip) (startClosure depth)))
        (.either .skip (withReconciledDatabase storeMethod))

/-- The completion of a network task: `claimCompletion`, and what it writes. -/
def taskCompletion (depth : ℕ) : Locking NativeSite :=
  .seq (cancelEntry (startClosure depth)) (.either .skip (withReconciledDatabase storeMethod))

/-! ## The plugins -/

/-- The closure `execute` of `executeBatch`, for the mode of the room it selects. -/
def execute (finalSelectedMode : Option String) : Locking NativeSite :=
  .seq
    -- `beforeCommit`
    (.withLock .serialization <|
      if finalSelectedMode = some "review_demo" then .either .skip updateAvailability else .skip)
    (.either
      (if finalSelectedMode = some "provider" then updateAvailability else .skip)
      -- it threw
      (if finalSelectedMode = none then .skip else .seq storeMethod updateAvailability))

def executeBatch (finalSelectedMode : Option String) : Locking NativeSite :=
  withDatabaseAuthority <| .seq (.many storeMethod) <| .either .skip <|
    .either (execute finalSelectedMode) (withReconciledDatabase (execute finalSelectedMode))

/-- The other methods of the database: `open`, `close`, `checkpoint`, `query` and the consent. -/
def databaseMethod : Locking NativeSite :=
  .either (.withLock .serialization storeMethod) <|
    .either (withDatabaseAuthority (.seq (.many storeMethod) (withReconciledDatabase storeMethod)))
      (withReconciledDatabase storeMethod)

/-- `prepareSave`, `completeSave`, `status` and `delete`, each under the reconciled database. -/
def credentialOperation : Locking NativeSite :=
  withReconciledDatabase (.seq (.many storeMethod) credentialMethod)

/-- `NativeLifecycleCoordinator`: the availability is published, and after that the commands
in flight are interrupted, and the database is closed or opened. -/
def lifecycleUpdate : Locking NativeSite :=
  .seq updateAvailability <| .seq (.either .skip (withReconciledDatabase (.many storeMethod)))
    (.either .skip (.withLock .serialization storeMethod))

/-- What a thread of the app is called for. -/
inductive NativeMethod
  | generate (depth : ℕ)
  | taskCompletion (depth : ℕ)
  | cancelEntry (depth : ℕ)
  | executeBatch (finalSelectedMode : Option String)
  | databaseMethod
  | credentialOperation
  | lifecycleUpdate

namespace NativeMethod

def program : NativeMethod → Locking NativeSite
  | .generate depth => LockOrder.generate depth
  | .taskCompletion depth => LockOrder.taskCompletion depth
  | .cancelEntry depth => LockOrder.cancelEntry (startClosure depth)
  | .executeBatch finalSelectedMode => LockOrder.executeBatch finalSelectedMode
  | .databaseMethod => LockOrder.databaseMethod
  | .credentialOperation => LockOrder.credentialOperation
  | .lifecycleUpdate => LockOrder.lifecycleUpdate

/-- A batch that selects a room. -/
def selectsRoom : NativeMethod → Bool
  | .executeBatch finalSelectedMode => finalSelectedMode.isSome
  | _ => false

end NativeMethod

/-- The threads of the app. -/
abbrev nativeLocks : TransitionSystem (LockState NativeMethod NativeSite)
    (LockLabel NativeMethod NativeSite) :=
  lockSystem NativeSite.lock NativeLock.recursive NativeMethod.program

/-! ## Who nests the locks -/

theorem startClosure_nests (depth : ℕ) :
    (startClosure depth).nests .serialization .registry = false ∧
      (startClosure depth).nests .serialization .beginNetwork = false ∧
      (startClosure depth).nests .registry .serialization = false := by
  induction depth with
  | zero => exact ⟨rfl, rfl, rfl⟩
  | succ depth ih =>
      simp [startClosure, cancelEntry, afterwards, authorityClosure, withReconciledDatabase,
        cancellationClosure, withDatabaseAuthority, credentialMethod, storeMethod, Locking.nests,
        Locking.acquires, ih]

/-- Only a batch that selects a room takes the registry's lock under the database's. -/
theorem NativeMethod.selectsRoom_of_nests {m : NativeMethod}
    (h : m.program.nests .serialization .registry) : m.selectsRoom := by
  cases m with
  | executeBatch mode =>
      cases mode with
      | some mode => rfl
      | none => revert h; decide
  | databaseMethod | credentialOperation | lifecycleUpdate => revert h; decide
  | generate depth | taskCompletion depth | cancelEntry depth =>
      simp [program, LockOrder.generate, LockOrder.taskCompletion, LockOrder.cancelEntry,
        afterwards, withReconciledDatabase, cancellationClosure, withDatabaseAuthority,
        credentialMethod, storeMethod, Locking.nests, Locking.acquires, startClosure_nests] at h

/-- Nobody enters `beginNetwork` under the database's lock, and nobody takes the database's
under the registry's outside of `beginNetwork`. -/
theorem NativeMethod.not_nests (m : NativeMethod) :
    m.program.nests .serialization .beginNetwork = false ∧
      m.program.nests .registry .serialization = false := by
  cases m with
  | executeBatch mode =>
      simp only [program, LockOrder.executeBatch, execute, updateAvailability,
        withReconciledDatabase, cancellationClosure, withDatabaseAuthority, credentialMethod,
        storeMethod]
      split_ifs <;> decide
  | databaseMethod | credentialOperation | lifecycleUpdate => decide
  | generate depth | taskCompletion depth | cancelEntry depth =>
      simp [program, LockOrder.generate, LockOrder.taskCompletion, LockOrder.cancelEntry,
        afterwards, withReconciledDatabase, cancellationClosure, withDatabaseAuthority,
        credentialMethod, storeMethod, Locking.nests, Locking.acquires, startClosure_nests]

/-! ## The two meet -/

/-- A batch that selects a room does not take the database's lock while another thread is in
`beginNetwork`, and `beginNetwork` is not entered while such a batch holds the database's. -/
def LocksApart (s : LockState NativeMethod NativeSite) (label : LockLabel NativeMethod NativeSite) :
    Prop :=
  ∀ i j batch other, i ≠ j → s i = some batch → batch.method.selectsRoom → s j = some other →
    (label = .acquire i .serialization → .beginNetwork ∉ other.held) ∧
    (label = .acquire j .beginNetwork → .serialization ∉ batch.held)

/-- No thread is in `beginNetwork` while a batch that selects a room is in the database. -/
def KeptApart (s : LockState NativeMethod NativeSite) : Prop :=
  ∀ i j batch other, i ≠ j → s i = some batch → batch.method.selectsRoom → s j = some other →
    .serialization ∈ batch.held → .beginNetwork ∉ other.held

theorem kept_apart : (nativeLocks.restrict LocksApart).Inductive KeptApart where
  init s hs := by
    intro i j batch other _ hi
    rw [show s = fun _ => none from hs] at hi
    cases hi
  step s label t hs hst := by
    obtain ⟨hapart, hst⟩ := hst
    intro i j batch other hne hi hselects hj hbatch hother
    obtain ⟨batch', hi', hmethod, hbatch'⟩ := hst.of_mem_held hi hbatch
    obtain ⟨other', hj', -, hother'⟩ := hst.of_mem_held hj hother
    rw [← hmethod] at hselects
    obtain ⟨hfirst, hsecond⟩ := hapart i j batch' other' hne hi' hselects hj'
    obtain hbatch' | hlabel := hbatch' <;> obtain hother' | hlabel' := hother'
    · exact hs i j batch' other' hne hi' hselects hj' hbatch' hother'
    · exact hsecond hlabel' hbatch'
    · exact hfirst hlabel hother'
    · exact hne (LockLabel.acquire.inj (hlabel.symm.trans hlabel')).1

/-- Who holds the database's lock and waits for the registry's is such a batch. -/
theorem selectsRoom_of_waits {s : LockState NativeMethod NativeSite} (hs : nativeLocks.Reachable s)
    {i : ℕ} {a : LockThread NativeMethod NativeSite} (ha : s i = some a)
    (hholds : a.Holds NativeSite.lock .serialization)
    (hwaits : a.WaitsFor NativeSite.lock .registry) :
    a.method.selectsRoom ∧ .serialization ∈ a.held := by
  obtain ⟨site, hheld, hsite⟩ := hholds
  obtain rfl : site = .serialization := by cases site <;> first | rfl | cases hsite
  obtain ⟨next, rest, hnext, hregistry⟩ := hwaits
  have hnests := nests_of_next hs ha hheld hnext
  refine ⟨?_, hheld⟩
  cases next with
  | registry => exact NativeMethod.selectsRoom_of_nests hnests
  | beginNetwork =>
      have hnot := (NativeMethod.not_nests a.method).1
      rw [hnot] at hnests
      cases hnests
  | serialization => cases hregistry

/-- Who holds the registry's lock and waits for the database's is in `beginNetwork`. -/
theorem beginNetwork_of_waits {s : LockState NativeMethod NativeSite}
    (hs : nativeLocks.Reachable s) {i : ℕ} {b : LockThread NativeMethod NativeSite}
    (hb : s i = some b) (hholds : b.Holds NativeSite.lock .registry)
    (hwaits : b.WaitsFor NativeSite.lock .serialization) : .beginNetwork ∈ b.held := by
  obtain ⟨next, rest, hnext, hserialization⟩ := hwaits
  obtain rfl : next = .serialization := by cases next <;> first | rfl | cases hserialization
  obtain ⟨site, hheld, hsite⟩ := hholds
  have hnests := nests_of_next hs hb hheld hnext
  cases site with
  | registry =>
      have hnot := (NativeMethod.not_nests b.method).2
      rw [hnot] at hnests
      cases hnests
  | beginNetwork => exact hheld
  | serialization => cases hsite

/-- **No two threads wait for each other's lock** in a run in which the batches that select a
room keep apart from the beginning of network tasks. -/
theorem lock_order {s : LockState NativeMethod NativeSite}
    (hs : (nativeLocks.restrict LocksApart).Reachable s) :
    ¬ ∃ i j a b, i ≠ j ∧ s i = some a ∧ s j = some b ∧
      a.Holds NativeSite.lock .serialization ∧ a.WaitsFor NativeSite.lock .registry ∧
      b.Holds NativeSite.lock .registry ∧ b.WaitsFor NativeSite.lock .serialization := by
  rintro ⟨i, j, a, b, hne, ha, hb, haholds, hawaits, hbholds, hbwaits⟩
  obtain ⟨hselects, hdatabase⟩ := selectsRoom_of_waits hs.of_restrict ha haholds hawaits
  have hbegins := beginNetwork_of_waits hs.of_restrict hb hbholds hbwaits
  exact kept_apart.reachable hs i j a b hne ha hselects hb hdatabase hbegins

/-! ## A batch meets the beginning of a network task -/

namespace Meeting

/-- A call of `generate` up to `beginNetwork`. -/
def generateBefore : List (LockOp NativeSite) :=
  [.acquire .registry, .release .registry, .acquire .serialization, .acquire .serialization,
    .release .serialization, .release .serialization, .acquire .registry, .release .registry,
    .acquire .beginNetwork]

/-- Its closure finds the database unavailable. -/
def generateAfter : List (LockOp NativeSite) :=
  [.acquire .serialization, .release .serialization, .release .beginNetwork]

/-- A batch that selects a room of the review demo, up to `beforeCommit`. -/
def batchBefore : List (LockOp NativeSite) := [.acquire .serialization, .acquire .serialization]

def batchAfter : List (LockOp NativeSite) :=
  [.acquire .registry, .release .registry, .release .serialization, .release .serialization]

theorem generate_trace :
    (NativeMethod.generate 1).program.Trace (generateBefore ++ generateAfter) := by
  have hload : (withReconciledDatabase storeMethod).Trace
      [.acquire .serialization, .acquire .serialization, .release .serialization,
        .release .serialization] :=
    .withLock (.seq (.left .skip) (.right (.seq (.left .skip) (.withLock .skip))))
  have hauthority : authorityClosure.Trace [.acquire .serialization, .release .serialization] :=
    .withLock (.seq (.left .skip) (.left .skip))
  have hafterwards : (afterwards (startClosure 0)).Trace [] := .seq .done .done
  have hstart : (startClosure 1).Trace [.acquire .beginNetwork, .acquire .serialization,
      .release .serialization, .release .beginNetwork] :=
    .right (.seq (.withLock (.right hauthority)) (.left hafterwards))
  have hinstall : (Locking.seq (.withLock .registry .skip) (startClosure 1)).Trace
      [.acquire .registry, .release .registry, .acquire .beginNetwork, .acquire .serialization,
        .release .serialization, .release .beginNetwork] :=
    .seq (.withLock .skip) hstart
  have hrest : (Locking.seq (.either .skip (.seq (.withLock .registry .skip) (startClosure 1)))
      (.either .skip (withReconciledDatabase storeMethod))).Trace
      [.acquire .registry, .release .registry, .acquire .beginNetwork, .acquire .serialization,
        .release .serialization, .release .beginNetwork] :=
    .seq (.right hinstall) (.left .skip)
  have hcall : (generate 1).Trace ([.acquire .registry, .release .registry] ++
      ([.acquire .serialization, .acquire .serialization, .release .serialization,
        .release .serialization] ++ [.acquire .registry, .release .registry,
          .acquire .beginNetwork, .acquire .serialization, .release .serialization,
          .release .beginNetwork])) :=
    .seq (.withLock .skip) (.right (.seq hload hrest))
  exact hcall

theorem batch_trace : (NativeMethod.executeBatch (some "review_demo")).program.Trace
    (batchBefore ++ batchAfter) := by
  have hupdate : updateAvailability.Trace [.acquire .registry, .release .registry] :=
    .seq (.withLock .skip) .done
  have hexecute : (execute (some "review_demo")).Trace
      [.acquire .serialization, .acquire .registry, .release .registry,
        .release .serialization] :=
    .seq (.withLock (.right hupdate)) (.left .skip)
  exact .withLock (.right (.seq .done (.right (.left hexecute))))

def generating (held : List NativeSite) (rest : List (LockOp NativeSite)) :
    LockThread NativeMethod NativeSite := { method := .generate 1, held, rest }

def selecting (held : List NativeSite) (rest : List (LockOp NativeSite)) :
    LockThread NativeMethod NativeSite :=
  { method := .executeBatch (some "review_demo"), held, rest }

/-- Thread 0 runs the batch, thread 1 the network task. -/
def threads (batch network : Option (LockThread NativeMethod NativeSite)) :
    LockState NativeMethod NativeSite :=
  Function.update (Function.update (fun _ => none) 1 network) 0 batch

variable {batch network : Option (LockThread NativeMethod NativeSite)}

@[simp] theorem update_batch (batch' : Option (LockThread NativeMethod NativeSite)) :
    Function.update (threads batch network) 0 batch' = threads batch' network :=
  Function.update_idem ..

@[simp] theorem update_network (network' : Option (LockThread NativeMethod NativeSite)) :
    Function.update (threads batch network) 1 network' = threads batch network' := by
  rw [threads, Function.update_comm (by decide), Function.update_idem]
  rfl

theorem eq_zero_or_one {i : ℕ} {thread : LockThread NativeMethod NativeSite}
    (h : threads batch network i = some thread) :
    i = 0 ∧ batch = some thread ∨ i = 1 ∧ network = some thread := by
  by_cases hi : i = 0
  · subst hi
    exact .inl ⟨rfl, h⟩
  · rw [threads, Function.update_of_ne hi] at h
    by_cases hi' : i = 1
    · subst hi'
      exact .inr ⟨rfl, h⟩
    · rw [Function.update_of_ne hi'] at h
      cases h

section

variable (ok : LockState NativeMethod NativeSite → LockLabel NativeMethod NativeSite → Prop)

/-- The network task gets on with its call. -/
theorem run_network (batch : Option (LockThread NativeMethod NativeSite))
    (others : List NativeLock) (held : List NativeSite) (done rest : List (LockOp NativeSite))
    (hothers : ∀ thread ∈ batch, ∀ l ∈ thread.held, l.lock ∈ others)
    (hok : ∀ held rest l, ok (threads batch (some (generating held rest))) (.acquire 1 l) ∧
      ok (threads batch (some (generating held rest))) (.release 1 l))
    (halone : runsAlone NativeSite.lock NativeLock.recursive others held done) :
    ∃ ls, (nativeLocks.restrict ok).Run (threads batch (some (generating held (done ++ rest)))) ls
      (threads batch (some (generating (heldAfter held done) rest))) := by
  have hrun : ∃ ls, (nativeLocks.restrict ok).Run
      (threads batch (some (generating held (done ++ rest)))) ls
      (Function.update (threads batch (some (generating held (done ++ rest)))) 1
        (some (generating (heldAfter held done) rest))) := by
    refine run_alone done rfl (fun j other hj hother => ?_) (fun held rest l => ?_) halone
    · obtain ⟨-, hother⟩ | ⟨rfl, -⟩ := eq_zero_or_one hother
      · exact hothers other hother
      · exact absurd rfl hj
    · rw [update_network]
      exact hok held rest l
  rwa [update_network] at hrun

/-- The batch gets on with its call. -/
theorem run_batch (network : Option (LockThread NativeMethod NativeSite))
    (others : List NativeLock) (held : List NativeSite) (done rest : List (LockOp NativeSite))
    (hothers : ∀ thread ∈ network, ∀ l ∈ thread.held, l.lock ∈ others)
    (hok : ∀ held rest l, ok (threads (some (selecting held rest)) network) (.acquire 0 l) ∧
      ok (threads (some (selecting held rest)) network) (.release 0 l))
    (halone : runsAlone NativeSite.lock NativeLock.recursive others held done) :
    ∃ ls, (nativeLocks.restrict ok).Run (threads (some (selecting held (done ++ rest))) network) ls
      (threads (some (selecting (heldAfter held done) rest)) network) := by
  have hrun : ∃ ls, (nativeLocks.restrict ok).Run
      (threads (some (selecting held (done ++ rest))) network) ls
      (Function.update (threads (some (selecting held (done ++ rest))) network) 0
        (some (selecting (heldAfter held done) rest))) := by
    refine run_alone done rfl (fun j other hj hother => ?_) (fun held rest l => ?_) halone
    · obtain ⟨rfl, -⟩ | ⟨-, hother⟩ := eq_zero_or_one hother
      · exact absurd rfl hj
      · exact hothers other hother
    · rw [update_batch]
      exact hok held rest l
  rwa [update_batch] at hrun

theorem step_generate
    (hok : ok (threads none none) (.call 1 (.generate 1) (generateBefore ++ generateAfter))) :
    (nativeLocks.restrict ok).Reachable
      (threads none (some (generating [] (generateBefore ++ generateAfter)))) := by
  have hinit : (nativeLocks.restrict ok).Reachable (threads none none) :=
    .of_init (by simp [threads, TransitionSystem.restrict, lockSystem])
  have hcall : nativeLocks.step (threads none none)
      (.call 1 (.generate 1) (generateBefore ++ generateAfter))
      (Function.update (threads none none) 1
        (some (generating [] (generateBefore ++ generateAfter)))) :=
    LockStep.call 1 (NativeMethod.generate 1) _ rfl generate_trace
  rw [update_network] at hcall
  exact hinit.step ⟨hok, hcall⟩

theorem step_batch (network : Option (LockThread NativeMethod NativeSite))
    (hok : ok (threads none network)
      (.call 0 (.executeBatch (some "review_demo")) (batchBefore ++ batchAfter))) :
    (nativeLocks.restrict ok).step (threads none network)
      (.call 0 (.executeBatch (some "review_demo")) (batchBefore ++ batchAfter))
      (threads (some (selecting [] (batchBefore ++ batchAfter))) network) := by
  have hcall : nativeLocks.step (threads none network)
      (.call 0 (.executeBatch (some "review_demo")) (batchBefore ++ batchAfter))
      (Function.update (threads none network) 0
        (some (selecting [] (batchBefore ++ batchAfter)))) :=
    LockStep.call 0 (NativeMethod.executeBatch (some "review_demo")) _ rfl batch_trace
  rw [update_batch] at hcall
  exact ⟨hok, hcall⟩

end

/-- Both stand before the lock the other one holds. -/
def stuck : LockState NativeMethod NativeSite :=
  threads (some (selecting [.serialization, .serialization] batchAfter))
    (some (generating [.beginNetwork] generateAfter))

theorem stuck_reachable : nativeLocks.Reachable stuck := by
  have hcalled := step_generate (fun _ _ => True) trivial
  obtain ⟨_, hbegins⟩ := run_network (fun _ _ => True) none [] [] generateBefore generateAfter
    nofun (fun _ _ _ => ⟨trivial, trivial⟩) (by decide)
  have hbatch := step_batch (fun _ _ => True) (some (generating [.beginNetwork] generateAfter))
    trivial
  obtain ⟨_, hselects⟩ := run_batch (fun _ _ => True)
    (some (generating [.beginNetwork] generateAfter)) [.registry] [] batchBefore batchAfter
    (by rintro _ ⟨⟩; decide) (fun _ _ _ => ⟨trivial, trivial⟩) (by decide)
  exact (((hcalled.run hbegins).step hbatch).run hselects).of_restrict

end Meeting

/-- A batch that selects a room and a network task that begins wait for each other. -/
theorem lock_order_crossed :
    ∃ s i j a b, nativeLocks.Reachable s ∧ i ≠ j ∧ s i = some a ∧ s j = some b ∧
      a.Holds NativeSite.lock .serialization ∧ a.WaitsFor NativeSite.lock .registry ∧
      b.Holds NativeSite.lock .registry ∧ b.WaitsFor NativeSite.lock .serialization :=
  ⟨Meeting.stuck, 0, 1, Meeting.selecting [.serialization, .serialization] Meeting.batchAfter,
    Meeting.generating [.beginNetwork] Meeting.generateAfter, Meeting.stuck_reachable, by decide,
    rfl, rfl, ⟨.serialization, by decide, rfl⟩, ⟨.registry, _, rfl, rfl⟩,
    ⟨.beginNetwork, by decide, rfl⟩, ⟨.serialization, _, rfl, rfl⟩⟩

namespace Meeting

/-- What the condition says of the two threads. -/
theorem locksApart {held : List NativeSite} {rest : List (LockOp NativeSite)}
    {label : LockLabel NativeMethod NativeSite}
    (h : ∀ b ∈ batch, (label = .acquire 0 .serialization → .beginNetwork ∉ held) ∧
      (label = .acquire 1 .beginNetwork → .serialization ∉ b.held)) :
    LocksApart (threads batch (some (generating held rest))) label := by
  intro i j b n hne hi hselects hj
  obtain ⟨rfl, hi⟩ | ⟨-, hi⟩ := eq_zero_or_one hi
  · obtain ⟨rfl, -⟩ | ⟨rfl, hj⟩ := eq_zero_or_one hj
    · exact absurd rfl hne
    · obtain rfl := Option.some.inj hj
      exact h b hi
  · obtain rfl := Option.some.inj hi
    cases hselects

/-- The network task may do anything while the batch has not begun. -/
theorem apart_network (ops : List (LockOp NativeSite)) (held : List NativeSite)
    (rest : List (LockOp NativeSite)) (l : NativeSite) :
    LocksApart (threads (some (selecting [] ops)) (some (generating held rest))) (.acquire 1 l) ∧
      LocksApart (threads (some (selecting [] ops)) (some (generating held rest)))
        (.release 1 l) := by
  refine ⟨locksApart ?_, locksApart ?_⟩ <;>
  · rintro _ ⟨⟩
    exact ⟨nofun, nofun⟩

/-- The batch may do anything when the network task has begun. -/
theorem apart_batch (held : List NativeSite) (rest : List (LockOp NativeSite)) (l : NativeSite) :
    LocksApart (threads (some (selecting held rest)) (some (generating [] []))) (.acquire 0 l) ∧
      LocksApart (threads (some (selecting held rest)) (some (generating [] [])))
        (.release 0 l) := by
  refine ⟨locksApart ?_, locksApart ?_⟩ <;>
  · rintro _ ⟨⟩
    exact ⟨nofun, nofun⟩

/-- The network task is in its closure, and the batch waits for the database. -/
def beginning : LockState NativeMethod NativeSite :=
  threads (some (selecting [] (batchBefore ++ batchAfter)))
    (some (generating [.serialization, .beginNetwork] [.release .serialization,
      .release .beginNetwork]))

/-- The network task has begun, and the batch is about to tell the registry. -/
def begun : LockState NativeMethod NativeSite :=
  threads (some (selecting [.serialization, .serialization] batchAfter)) (some (generating [] []))

theorem beginning_reachable : (nativeLocks.restrict LocksApart).Reachable beginning := by
  have hnobody : LocksApart (threads none none)
      (.call 1 (.generate 1) (generateBefore ++ generateAfter)) := by
    intro i j b n _ hi
    obtain ⟨-, hi⟩ | ⟨-, hi⟩ := eq_zero_or_one hi <;> cases hi
  have hcalled := step_generate LocksApart hnobody
  obtain ⟨_, hbegins⟩ := run_network LocksApart none [] [] generateBefore generateAfter nofun
    (fun _ _ _ => ⟨locksApart nofun, locksApart nofun⟩) (by decide)
  have hbatch := step_batch LocksApart (some (generating [.beginNetwork] generateAfter))
    (locksApart nofun)
  obtain ⟨_, hcloses⟩ := run_network LocksApart
    (some (selecting [] (batchBefore ++ batchAfter))) [] [.beginNetwork] [.acquire .serialization]
    [.release .serialization, .release .beginNetwork] (by rintro _ ⟨⟩; nofun) (apart_network _)
    (by decide)
  exact ((hcalled.run hbegins).step hbatch).run hcloses

theorem begun_of_beginning : ∃ ls, (nativeLocks.restrict LocksApart).Run beginning ls begun := by
  obtain ⟨_, hends⟩ := run_network LocksApart
    (some (selecting [] (batchBefore ++ batchAfter))) [] [.serialization, .beginNetwork]
    [.release .serialization, .release .beginNetwork] [] (by rintro _ ⟨⟩; nofun) (apart_network _)
    (by decide)
  obtain ⟨_, hselects⟩ := run_batch LocksApart (some (generating [] [])) [] [] batchBefore
    batchAfter (by rintro _ ⟨⟩; nofun) apart_batch (by decide)
  exact ⟨_, hends.append hselects⟩

end Meeting

/-- A batch waits while the network task begins, and goes on when it has begun. -/
theorem lock_order_apart :
    (¬ ∃ i j a b, i ≠ j ∧ Meeting.beginning i = some a ∧ Meeting.beginning j = some b ∧
      a.Holds NativeSite.lock .serialization ∧ a.WaitsFor NativeSite.lock .registry ∧
      b.Holds NativeSite.lock .registry ∧ b.WaitsFor NativeSite.lock .serialization) ∧
    ¬ ∃ i j a b, i ≠ j ∧ Meeting.begun i = some a ∧ Meeting.begun j = some b ∧
      a.Holds NativeSite.lock .serialization ∧ a.WaitsFor NativeSite.lock .registry ∧
      b.Holds NativeSite.lock .registry ∧ b.WaitsFor NativeSite.lock .serialization := by
  refine ⟨lock_order Meeting.beginning_reachable, ?_⟩
  obtain ⟨_, hrun⟩ := Meeting.begun_of_beginning
  exact lock_order (Meeting.beginning_reachable.run hrun)

end GreenRoom.Iphone.LockOrder
