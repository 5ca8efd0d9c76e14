import GreenRoom.Lib.Checks
import GreenRoom.Providers.SnapshotParser

/-!
# Snapshots read back

What a parser of `providers/profile-contracts.ts` returns is read back from the object it
returns, whatever the order of the members.

## Main definitions

* `Restores` — what a parser returns, it reads back.
* `DecisionSnapshot.Consistent` — the parts of a snapshot name one another.
* `DecisionSnapshot.Checked` — what its single fields have passed.

## Main results

* `parseDecisionSnapshot_restores` — decision snapshots are read back.
* `parseDecisionSnapshot_consistent`, `parseDecisionSnapshot_checked`
* `names_toJson`, `distinct_toJson` — the names of their members.
-/

namespace GreenRoom.Providers

open JsString

/-- What `parse` returns is read back from its object, in any order of members. -/
def Restores {α : Type} (parse : Unknown → Except JsError α) (toJson : α → Json ℚ) : Prop :=
  ∀ value a, parse value = .ok a → ∀ w, Json.Same w (toJson a) → parse (.ofJson w) = .ok a

/-- What the parts of a snapshot say of one another. -/
structure DecisionSnapshot.Consistent (snapshot : DecisionSnapshot) : Prop where
  connection : snapshot.model.connection = ⟨snapshot.connection.id, snapshot.connection.revision⟩
  model : snapshot.binding.model = ⟨snapshot.model.id, snapshot.model.revision⟩
  adapter : snapshot.adapter.id = adapterForTarget snapshot.connection.target

/-- `canonicalId`. -/
def IsCanonicalId (s : JsString) : Prop :=
  s ≠ [] ∧ s.length ≤ Parse.MAX_ID_LENGTH ∧ isIdText s = true

/-- The identifiers of a snapshot's parts. -/
def DecisionSnapshot.ids (snapshot : DecisionSnapshot) : List JsString :=
  [snapshot.id, snapshot.binding.id, snapshot.binding.roomId, snapshot.connection.id,
    snapshot.model.id]

/-- What the fields of a snapshot have passed. -/
structure DecisionSnapshot.Checked (snapshot : DecisionSnapshot) : Prop where
  ids : ∀ id ∈ snapshot.ids, IsCanonicalId id
  modelId : snapshot.model.modelId.length ≤ maxOpaqueModelIdBytes
  capabilities : snapshot.model.requiredCapabilities.length ≤ ModelCapability.all.length
  version : snapshot.adapter.version.length ≤ 32
  fingerprint : Parse.isFingerprint snapshot.capabilityFingerprint = true

namespace Parse

/-! ## What has been checked -/

theorem canonicalId_ok {value : Unknown} {label : String} {s : JsString}
    (h : canonicalId value label = .ok s) : IsCanonicalId s := by
  unfold canonicalId at h
  split at h
  · split at h
    · next hs =>
        obtain rfl := Except.ok.inj h
        exact hs
    · cases h
  · cases h

theorem fingerprint_ok {value : Unknown} {s : JsString} (h : fingerprint value = .ok s) :
    isFingerprint s = true := by
  unfold fingerprint at h
  split at h
  · split at h
    · next hs =>
        obtain rfl := Except.ok.inj h
        exact hs
    · cases h
  · cases h

theorem requiredCapabilities_ok {value : Unknown} {capabilities : List ModelCapability}
    (h : requiredCapabilities value = .ok capabilities) :
    ¬ (ModelCapability.all.length < capabilities.length ∨ !ascending capabilities) := by
  unfold requiredCapabilities at h
  split at h
  · rw [Except.ite_throw_bind] at h
    obtain ⟨found, -, h⟩ := Except.bind_eq_ok.mp h.2
    rw [Except.ite_throw_bind] at h
    obtain ⟨hchecked, hfound⟩ := h
    rw [← Except.ok.inj hfound]
    exact hchecked
  · cases h

theorem snapshotConnection_ok {value : Unknown} {connection : SnapshotConnectionProfile}
    (h : snapshotConnection value = .ok connection) : IsCanonicalId connection.id := by
  obtain ⟨profile, hprofile, h⟩ := Except.bind_eq_ok.mp h
  obtain ⟨fields, -, hprofile⟩ := Except.bind_eq_ok.mp hprofile
  obtain ⟨id, hid, hprofile⟩ := Except.bind_eq_ok.mp hprofile
  obtain ⟨target, -, hprofile⟩ := Except.bind_eq_ok.mp hprofile
  obtain ⟨number, -, hprofile⟩ := Except.bind_eq_ok.mp hprofile
  obtain ⟨credentialRef, -, hprofile⟩ := Except.bind_eq_ok.mp hprofile
  obtain ⟨mutationId, -, hprofile⟩ := Except.bind_eq_ok.mp hprofile
  obtain rfl := Except.ok.inj hprofile
  rw [Except.ite_throw_bind] at h
  rw [← Except.ok.inj h.2]
  exact canonicalId_ok hid

theorem parseModelProfile_ok {normalize : JsString → JsString} {value : Unknown}
    {profile : ModelProfile} (h : parseModelProfile normalize value = .ok profile) :
    IsCanonicalId profile.id ∧ profile.modelId.length ≤ maxOpaqueModelIdBytes ∧
      profile.requiredCapabilities.length ≤ ModelCapability.all.length := by
  obtain ⟨fields, -, h⟩ := Except.bind_eq_ok.mp h
  obtain ⟨id, hid, h⟩ := Except.bind_eq_ok.mp h
  obtain ⟨number, -, h⟩ := Except.bind_eq_ok.mp h
  obtain ⟨connection, -, h⟩ := Except.bind_eq_ok.mp h
  obtain ⟨name, hname, h⟩ := Except.bind_eq_ok.mp h
  obtain ⟨capabilities, hcapabilities, h⟩ := Except.bind_eq_ok.mp h
  obtain ⟨generation, -, h⟩ := Except.bind_eq_ok.mp h
  obtain rfl := Except.ok.inj h
  refine ⟨canonicalId_ok hid, ?_, ?_⟩
  · unfold modelId at hname
    split at hname
    · split at hname
      · next hbounded =>
          obtain rfl := Except.ok.inj hname
          simp only [isBoundedOpaqueModelId, Bool.and_eq_true, decide_eq_true_eq] at hbounded
          exact hbounded.1.1.1.1.2
      · cases hname
    · cases hname
  · have hchecked := requiredCapabilities_ok hcapabilities
    exact not_lt.mp fun hlt => hchecked (.inl hlt)

theorem parseRoomBinding_ok {value : Unknown} {binding : RoomBinding}
    (h : parseRoomBinding value = .ok binding) :
    IsCanonicalId binding.id ∧ IsCanonicalId binding.roomId := by
  obtain ⟨fields, -, h⟩ := Except.bind_eq_ok.mp h
  split at h
  · rw [Except.ite_throw_bind] at h
    obtain ⟨-, h⟩ := h
    obtain ⟨id, hid, h⟩ := Except.bind_eq_ok.mp h
    obtain ⟨number, -, h⟩ := Except.bind_eq_ok.mp h
    obtain ⟨roomId, hroom, h⟩ := Except.bind_eq_ok.mp h
    obtain ⟨model, -, h⟩ := Except.bind_eq_ok.mp h
    obtain rfl := Except.ok.inj h
    exact ⟨canonicalId_ok hid, canonicalId_ok hroom⟩
  · cases h

theorem adapterEvidence_ok {value : Unknown} {adapter : AdapterEvidence}
    (h : adapterEvidence value = .ok adapter) : adapter.version.length ≤ 32 := by
  obtain ⟨fields, -, h⟩ := Except.bind_eq_ok.mp h
  split at h
  · rw [Except.ite_throw_bind] at h
    obtain ⟨hversion, h⟩ := h
    obtain ⟨name, -, h⟩ := Except.bind_eq_ok.mp h
    split at h
    · obtain rfl := Except.ok.inj h
      simp only [isVersion, Bool.not_eq_true', Bool.not_eq_false, Bool.and_eq_true,
        decide_eq_true_eq] at hversion
      exact hversion.1
    · cases h
  · cases h

/-- An accepted snapshot has passed the checks of its fields. -/
theorem parseDecisionSnapshot_checked {normalize : JsString → JsString} {value : Unknown}
    {snapshot : DecisionSnapshot} (h : parseDecisionSnapshot normalize value = .ok snapshot) :
    snapshot.Checked := by
  obtain ⟨fields, -, h⟩ := Except.bind_eq_ok.mp h
  obtain ⟨connection, hconnection, h⟩ := Except.bind_eq_ok.mp h
  obtain ⟨model, hmodel, h⟩ := Except.bind_eq_ok.mp h
  obtain ⟨binding, hbinding, h⟩ := Except.bind_eq_ok.mp h
  rw [Except.ite_throw_bind] at h
  have h := h.2
  rw [Except.ite_throw_bind] at h
  obtain ⟨print, hprint, h⟩ := Except.bind_eq_ok.mp h.2
  obtain ⟨adapter, hadapter, h⟩ := Except.bind_eq_ok.mp h
  rw [Except.ite_throw_bind] at h
  obtain ⟨id, hid, h⟩ := Except.bind_eq_ok.mp h.2
  obtain ⟨generation, -, h⟩ := Except.bind_eq_ok.mp h
  obtain ⟨director, -, h⟩ := Except.bind_eq_ok.mp h
  obtain ⟨policy, -, h⟩ := Except.bind_eq_ok.mp h
  obtain rfl := Except.ok.inj h
  obtain ⟨hmodelId, hname, hcapabilities⟩ := parseModelProfile_ok hmodel
  obtain ⟨hbindingId, hroomId⟩ := parseRoomBinding_ok hbinding
  refine ⟨?_, hname, hcapabilities, adapterEvidence_ok hadapter, fingerprint_ok hprint⟩
  simp only [DecisionSnapshot.ids, List.forall_mem_cons, List.not_mem_nil, false_imp_iff,
    implies_true, and_true]
  exact ⟨canonicalId_ok hid, hbindingId, hroomId, snapshotConnection_ok hconnection, hmodelId⟩

/-! ## Single values -/

/-- A text that passes a check passes it again. -/
theorem restores_of_check (check : JsString → Prop) [DecidablePred check] (e : JsError)
    {parse : Unknown → Except JsError JsString}
    (hparse : ∀ value, parse value = match value with
      | .str s => if check s then .ok s else .error e
      | _ => .error e) : Restores parse .str := by
  intro value s h w hw
  obtain rfl := hw.of_str
  rw [hparse] at h ⊢
  cases value with
  | str s =>
      dsimp only at h
      split at h
      · next hs =>
          obtain rfl := Except.ok.inj h
          exact if_pos hs
      · cases h
  | _ => cases h

theorem canonicalId_restores (label : String) : Restores (canonicalId · label) .str :=
  restores_of_check (fun s => s ≠ [] ∧ s.length ≤ MAX_ID_LENGTH ∧ isIdText s) _
    fun value => by cases value <;> rfl

theorem modelId_restores (normalize : JsString → JsString) : Restores (modelId normalize) .str :=
  restores_of_check (fun s => isBoundedOpaqueModelId normalize s) _
    fun value => by cases value <;> rfl

theorem fingerprint_restores : Restores fingerprint .str :=
  restores_of_check (fun s => isFingerprint s) _ fun value => by cases value <;> rfl

theorem integer_restores (minimum maximum : ℕ) (message : String) :
    Restores (integer · minimum maximum message) fun n => .num (n : ℚ) := by
  intro value n h w hw
  obtain rfl := hw.of_num
  cases value with
  | num x =>
      dsimp only [integer] at h
      split at h
      · next hx =>
          obtain rfl := Except.ok.inj h
          have hwhole : ((x.num.toNat : ℕ) : ℚ) = x := by
            have hnonneg : 0 ≤ x.num :=
              Rat.num_nonneg.mpr (le_trans (Nat.cast_nonneg minimum) hx.2.1)
            have hnum : ((x.num : ℤ) : ℚ) = x := Rat.coe_int_num_of_den_eq_one hx.1
            rw [← Int.cast_natCast, Int.toNat_of_nonneg hnonneg, hnum]
          simp only [Unknown.ofJson, hwhole]
          exact if_pos hx
      · cases h
  | _ => cases h

theorem revision_restores (label : String) :
    Restores (revision · label) fun n => .num (n : ℚ) :=
  integer_restores _ _ _

theorem named_providerName (a : ApprovedCloudProviderId) :
    named ApprovedCloudProviderId.all ApprovedCloudProviderId.name (ofString a.name) = some a := by
  cases a <;> decide

theorem named_adapterName (a : LocalAdapter) :
    named LocalAdapter.all LocalAdapter.name (ofString a.name) = some a := by
  cases a <;> decide

theorem named_capabilityName (a : ModelCapability) :
    named ModelCapability.all ModelCapability.name (ofString a.name) = some a := by
  cases a <;> decide

/-! ## Connections -/

/-- Every target is read back. -/
theorem connectionTarget_toJson (target : ConnectionTarget) {w : Json ℚ}
    (hw : Json.Same w target.toJson) : connectionTarget (.ofJson w) = .ok target := by
  cases target with
  | approvedProvider definitionId =>
      obtain ⟨found, hfound, hget, -⟩ := dataFields_of_same hw ["class", "definitionId"]
        ["class"] ["adapter", "definitionId"] rfl (by decide) (by decide) (by decide)
        "connection target"
      obtain ⟨found', hfound', hget', -⟩ := dataFields_of_same hw ["class", "definitionId"]
        ["class", "definitionId"] [] rfl (by decide) (by decide) (by decide) "connection target"
      rcases hget with _ | ⟨⟨targetClass, hclass, hsame⟩, -⟩
      rcases hget' with _ | ⟨-, _ | ⟨⟨id, hid, hsame'⟩, -⟩⟩
      obtain rfl := hsame.of_str
      obtain rfl := hsame'.of_str
      simp [connectionTarget, hfound, hfound', hclass, hid, Unknown.ofJson, named_providerName,
        bind, Except.bind, pure, Except.pure]
  | localEndpoint adapter =>
      obtain ⟨found, hfound, hget, -⟩ := dataFields_of_same hw ["class", "adapter"]
        ["class"] ["adapter", "definitionId"] rfl (by decide) (by decide) (by decide)
        "connection target"
      obtain ⟨found', hfound', hget', -⟩ := dataFields_of_same hw ["class", "adapter"]
        ["adapter", "class"] [] rfl (by decide) (by decide) (by decide) "connection target"
      rcases hget with _ | ⟨⟨targetClass, hclass, hsame⟩, -⟩
      rcases hget' with _ | ⟨-, _ | ⟨⟨name, hname, hsame'⟩, -⟩⟩
      obtain rfl := hsame.of_str
      obtain rfl := hsame'.of_str
      have hother : ofString "local-endpoint" ≠ ofString "approved-provider" := by decide
      simp [connectionTarget, hfound, hfound', hclass, hname, hother, Unknown.ofJson,
        named_adapterName, bind, Except.bind, pure, Except.pure]

theorem connectionTarget_restores : Restores connectionTarget ConnectionTarget.toJson :=
  fun _ target _ _ hw => connectionTarget_toJson target hw

theorem snapshotConnection_restores :
    Restores snapshotConnection SnapshotConnectionProfile.toJson := by
  intro value connection h w hw
  obtain ⟨profile, hprofile, h⟩ := Except.bind_eq_ok.mp h
  obtain ⟨fields, -, hprofile⟩ := Except.bind_eq_ok.mp hprofile
  obtain ⟨id, hid, hprofile⟩ := Except.bind_eq_ok.mp hprofile
  obtain ⟨target, htarget, hprofile⟩ := Except.bind_eq_ok.mp hprofile
  obtain ⟨number, hnumber, hprofile⟩ := Except.bind_eq_ok.mp hprofile
  obtain ⟨credentialRef, -, hprofile⟩ := Except.bind_eq_ok.mp hprofile
  obtain ⟨mutationId, -, hprofile⟩ := Except.bind_eq_ok.mp hprofile
  obtain rfl := Except.ok.inj hprofile
  obtain rfl : ⟨id, number, target⟩ = connection := by
    split at h
    · cases h
    · exact Except.ok.inj h
  obtain ⟨found, hfound, hget, hfree⟩ := dataFields_of_same hw ["id", "revision", "target"]
    ["id", "revision", "target"] ["credentialRef", "mutationId"] rfl (by decide) (by decide)
    (by decide) "connection profile"
  rcases hget with _ | ⟨⟨v, hv, hsame⟩, _ | ⟨⟨v', hv', hsame'⟩, _ | ⟨⟨v'', hv'', hsame''⟩, _⟩⟩⟩
  have hid : canonicalId (.ofJson v) "connection profile id" = .ok id :=
    canonicalId_restores _ _ _ hid v hsame
  have hnumber : revision (.ofJson v') "connection profile revision" = .ok number :=
    revision_restores _ _ _ hnumber v' hsame'
  have htarget := connectionTarget_restores _ _ htarget v'' hsame''
  have hcredential := hfree "credentialRef" (by decide)
  have hmutation := hfree "mutationId" (by decide)
  simp [snapshotConnection, parseConnectionProfile, hfound, hv, hv', hv'', hid, hnumber, htarget,
    hcredential, hmutation, optionalText, bind, Except.bind, pure, Except.pure]

theorem profileRevisionRef_restores (label : String) :
    Restores (profileRevisionRef · label) ProfileRevisionRef.toJson := by
  intro value reference h w hw
  obtain ⟨fields, -, h⟩ := Except.bind_eq_ok.mp h
  obtain ⟨profileId, hid, h⟩ := Except.bind_eq_ok.mp h
  obtain ⟨number, hnumber, h⟩ := Except.bind_eq_ok.mp h
  obtain rfl := Except.ok.inj h
  obtain ⟨found, hfound, hget, -⟩ := dataFields_of_same hw ["profileId", "revision"]
    ["profileId", "revision"] [] rfl (by decide) (by decide) (by decide) label
  rcases hget with _ | ⟨⟨v, hv, hsame⟩, _ | ⟨⟨v', hv', hsame'⟩, _⟩⟩
  have hid : canonicalId (.ofJson v) (label ++ " profileId") = .ok profileId :=
    canonicalId_restores _ _ _ hid v hsame
  have hnumber : revision (.ofJson v') (label ++ " revision") = .ok number :=
    revision_restores _ _ _ hnumber v' hsame'
  simp [profileRevisionRef, hfound, hv, hv', hid, hnumber, bind, Except.bind, pure, Except.pure]

/-! ## Models -/

theorem isIndexKey_ofNat (n : ℕ) : isIndexKey (ofNat n) := by
  have hdigits : (ofNat n).all isDigit :=
    List.all_eq_true.mpr fun u hu => isDigit_of_mem_ofNat hu
  have hhead : (ofNat n).head? ≠ some (unit '0') ∨ (ofNat n).length = 1 := by
    by_cases hn : n = 0
    · subst hn
      exact .inr rfl
    · refine .inl fun hhead => ?_
      have hne : Nat.digits 10 n ≠ [] := Nat.digits_ne_nil_iff_ne_zero.mpr hn
      rw [ofNat, if_neg hn, List.head?_reverse, List.getLast?_map,
        List.getLast?_eq_some_getLast hne, Option.map_some, Option.some.injEq] at hhead
      have hlt : (Nat.digits 10 n).getLast hne < 10 :=
        Nat.digits_lt_base (by omega) (List.getLast_mem hne)
      have hzero := congrArg UInt16.toNat hhead
      have hunit : (unit '0').toNat = 48 := by decide
      rw [toNat_digit hlt, hunit] at hzero
      exact Nat.getLast_digit_ne_zero 10 hn (by omega)
  simp [isIndexKey, ofNat_ne_nil, hdigits, hhead]

theorem ofElements_isElement (elements : List (Json ℚ)) (index : ℕ) :
    (Unknown.ofElements index elements).all isElement := by
  induction elements generalizing index with
  | nil => rfl
  | cons v vs ih => simp [Unknown.ofElements, isElement, isIndexKey_ofNat, ih]

theorem lookup_ofElements (elements : List (Json ℚ)) (index i : ℕ) :
    (Unknown.ofElements index elements).lookup (.string (ofNat (index + i))) =
      elements[i]?.map fun v => .data (.ofJson v) true := by
  induction elements generalizing index i with
  | nil => rfl
  | cons v vs ih =>
      rw [Unknown.ofElements, List.lookup_cons]
      cases i with
      | zero => simp
      | succ i =>
          have hne : (PropertyKey.string (ofNat (index + (i + 1))) == .string (ofNat index)) =
              false := by
            simpa using fun h => absurd (ofNat_injective h) (by omega)
          rw [hne]
          simpa [Nat.add_assoc, Nat.add_comm 1 i] using ih (index + 1) i

/-- The capabilities at all indices of an array of their names. -/
theorem mapM_capabilityAt (capabilities : List ModelCapability) {n : ℕ}
    (hn : n = capabilities.length) : (List.range n).mapM (capabilityAt (Unknown.ofElements 0
      ((capabilities.map fun capability => ofString capability.name).map .str))) =
      .ok capabilities := by
  subst hn
  refine List.mapM_eq_ok_iff.mpr (List.forall₂_iff_get.mpr ⟨by simp, fun i hi hi' => ?_⟩)
  have hlookup := lookup_ofElements
    ((capabilities.map fun capability => ofString capability.name).map .str) 0 i
  have hat : ((capabilities.map fun capability => ofString capability.name).map Json.str)[i]? =
      some (.str (ofString capabilities[i].name) : Json ℚ) := by simp [hi']
  rw [Nat.zero_add, hat] at hlookup
  rw [List.get_eq_getElem, List.getElem_range, capabilityAt, hlookup]
  simp only [Option.map_some, Unknown.ofJson, named_capabilityName, List.get_eq_getElem]

theorem requiredCapabilities_restores : Restores requiredCapabilities fun capabilities =>
    .arr (capabilities.map fun capability => text capability.name) := by
  intro value capabilities h w hw
  have hchecked := requiredCapabilities_ok h
  have htexts : w = .arr ((capabilities.map fun capability => ofString capability.name).map .str) :=
    Json.Same.of_arr_str (by rw [List.map_map]; exact hw)
  subst htexts
  rw [Unknown.ofJson, requiredCapabilities, ofElements_isElement, mapM_capabilityAt _ (by simp)]
  simp only [not_or, not_lt, Bool.not_eq_true', Bool.not_eq_false] at hchecked
  simp [hchecked, bind, Except.bind, pure, Except.pure]

theorem generationDefaults_restores :
    Restores generationDefaults GenerationDefaults.toJson := by
  intro value generation h w hw
  obtain ⟨fields, -, h⟩ := Except.bind_eq_ok.mp h
  split at h
  · next temperature _ =>
      rw [Except.ite_throw_bind] at h
      obtain ⟨hbounds, h⟩ := h
      obtain ⟨maxOutputTokens, htokens, h⟩ := Except.bind_eq_ok.mp h
      obtain rfl := Except.ok.inj h
      obtain ⟨found, hfound, hget, -⟩ := dataFields_of_same hw ["temperature", "maxOutputTokens"]
        ["maxOutputTokens", "temperature"] [] rfl (by decide) (by decide) (by decide)
        "model profile generation"
      rcases hget with _ | ⟨⟨v, hv, hsame⟩, _ | ⟨⟨v', hv', hsame'⟩, _⟩⟩
      obtain rfl := hsame.of_num
      have htokens : integer (.ofJson v') 1 32768 _ = .ok maxOutputTokens :=
        integer_restores _ _ _ _ _ htokens v' hsame'
      simp [generationDefaults, hfound, hv, hv', htokens, hbounds, Unknown.ofJson, bind,
        Except.bind, pure, Except.pure]
  · cases h

theorem parseModelProfile_restores (normalize : JsString → JsString) :
    Restores (parseModelProfile normalize) ModelProfile.toJson := by
  intro value profile h w hw
  obtain ⟨fields, -, h⟩ := Except.bind_eq_ok.mp h
  obtain ⟨id, hid, h⟩ := Except.bind_eq_ok.mp h
  obtain ⟨number, hnumber, h⟩ := Except.bind_eq_ok.mp h
  obtain ⟨connection, hconnection, h⟩ := Except.bind_eq_ok.mp h
  obtain ⟨name, hname, h⟩ := Except.bind_eq_ok.mp h
  obtain ⟨capabilities, hcapabilities, h⟩ := Except.bind_eq_ok.mp h
  obtain ⟨generation, hgeneration, h⟩ := Except.bind_eq_ok.mp h
  obtain rfl := Except.ok.inj h
  obtain ⟨found, hfound, hget, -⟩ := dataFields_of_same hw
    ["id", "revision", "connection", "modelId", "requiredCapabilities", "generation"]
    ["connection", "generation", "id", "modelId", "requiredCapabilities", "revision"] [] rfl
    (by decide) (by decide) (by decide) "model profile"
  rcases hget with _ | ⟨⟨v₁, h₁, hs₁⟩, _ | ⟨⟨v₂, h₂, hs₂⟩, _ | ⟨⟨v₃, h₃, hs₃⟩,
    _ | ⟨⟨v₄, h₄, hs₄⟩, _ | ⟨⟨v₅, h₅, hs₅⟩, _ | ⟨⟨v₆, h₆, hs₆⟩, _⟩⟩⟩⟩⟩⟩
  have hid : canonicalId (.ofJson v₁) "model profile id" = .ok id :=
    canonicalId_restores _ _ _ hid v₁ hs₁
  have hnumber : revision (.ofJson v₂) "model profile revision" = .ok number :=
    revision_restores _ _ _ hnumber v₂ hs₂
  have hconnection : profileRevisionRef (.ofJson v₃) "model profile connection" = .ok connection :=
    profileRevisionRef_restores _ _ _ hconnection v₃ hs₃
  have hname := modelId_restores normalize _ _ hname v₄ hs₄
  have hcapabilities := requiredCapabilities_restores _ _ hcapabilities v₅ hs₅
  have hgeneration := generationDefaults_restores _ _ hgeneration v₆ hs₆
  simp [parseModelProfile, hfound, h₁, h₂, h₃, h₄, h₅, h₆, hid, hnumber, hconnection, hname,
    hcapabilities, hgeneration, bind, Except.bind, pure, Except.pure]

/-! ## Bindings and snapshots -/

theorem parseRoomBinding_restores : Restores parseRoomBinding RoomBinding.toJson := by
  intro value binding h w hw
  obtain ⟨fields, -, h⟩ := Except.bind_eq_ok.mp h
  split at h
  · rw [Except.ite_throw_bind] at h
    obtain ⟨-, h⟩ := h
    obtain ⟨id, hid, h⟩ := Except.bind_eq_ok.mp h
    obtain ⟨number, hnumber, h⟩ := Except.bind_eq_ok.mp h
    obtain ⟨roomId, hroom, h⟩ := Except.bind_eq_ok.mp h
    obtain ⟨model, hmodel, h⟩ := Except.bind_eq_ok.mp h
    obtain rfl := Except.ok.inj h
    obtain ⟨found, hfound, hget, -⟩ := dataFields_of_same hw
      ["id", "revision", "roomId", "purpose", "model"]
      ["id", "model", "purpose", "revision", "roomId"] [] rfl (by decide) (by decide) (by decide)
      "room binding"
    rcases hget with _ | ⟨⟨v₁, h₁, hs₁⟩, _ | ⟨⟨v₂, h₂, hs₂⟩, _ | ⟨⟨v₃, h₃, hs₃⟩,
      _ | ⟨⟨v₄, h₄, hs₄⟩, _ | ⟨⟨v₅, h₅, hs₅⟩, _⟩⟩⟩⟩⟩
    have hid : canonicalId (.ofJson v₁) "room binding id" = .ok id :=
      canonicalId_restores _ _ _ hid v₁ hs₁
    have hnumber : revision (.ofJson v₂) "room binding revision" = .ok number :=
      revision_restores _ _ _ hnumber v₂ hs₂
    have hroom : canonicalId (.ofJson v₃) "room binding roomId" = .ok roomId :=
      canonicalId_restores _ _ _ hroom v₃ hs₃
    obtain rfl := hs₄.of_str
    have hmodel : profileRevisionRef (.ofJson v₅) "room binding model" = .ok model :=
      profileRevisionRef_restores _ _ _ hmodel v₅ hs₅
    simp [parseRoomBinding, hfound, h₁, h₂, h₃, h₄, h₅, hid, hnumber, hroom, hmodel,
      Unknown.ofJson, bind, Except.bind, pure, Except.pure]
  · cases h

theorem named_name {s : JsString} {a : LocalAdapter}
    (h : named LocalAdapter.all LocalAdapter.name s = some a) : ofString a.name = s := by
  simpa [named] using List.find?_some h

theorem adapterEvidence_restores : Restores adapterEvidence AdapterEvidence.toJson := by
  intro value adapter h w hw
  obtain ⟨fields, -, h⟩ := Except.bind_eq_ok.mp h
  split at h
  · rw [Except.ite_throw_bind] at h
    obtain ⟨hversion, h⟩ := h
    obtain ⟨name, hname, h⟩ := Except.bind_eq_ok.mp h
    split at h
    · next version _ _ id hid =>
        obtain rfl := Except.ok.inj h
        obtain rfl := named_name hid
        obtain ⟨found, hfound, hget, -⟩ := dataFields_of_same hw ["id", "version"]
          ["id", "version"] [] rfl (by decide) (by decide) (by decide) "decision snapshot adapter"
        rcases hget with _ | ⟨⟨v₁, h₁, hs₁⟩, _ | ⟨⟨v₂, h₂, hs₂⟩, _⟩⟩
        have hname : canonicalId (.ofJson v₁) "decision snapshot adapter id" = .ok _ :=
          canonicalId_restores _ _ _ hname v₁ hs₁
        obtain rfl := hs₂.of_str
        simp [adapterEvidence, hfound, h₁, h₂, hname, hid, hversion, Unknown.ofJson, bind,
          Except.bind, pure, Except.pure]
    · cases h
  · cases h

theorem sameReference_iff {reference : ProfileRevisionRef} {id : JsString} {revision : ℕ} :
    sameReference reference id revision = true ↔ reference = ⟨id, revision⟩ := by
  cases reference
  simp [sameReference]

section

variable {normalize : JsString → JsString}

theorem parseDecisionSnapshot_consistent {value : Unknown} {snapshot : DecisionSnapshot}
    (h : parseDecisionSnapshot normalize value = .ok snapshot) : snapshot.Consistent := by
  obtain ⟨fields, -, h⟩ := Except.bind_eq_ok.mp h
  obtain ⟨connection, -, h⟩ := Except.bind_eq_ok.mp h
  obtain ⟨model, -, h⟩ := Except.bind_eq_ok.mp h
  obtain ⟨binding, -, h⟩ := Except.bind_eq_ok.mp h
  rw [Except.ite_throw_bind] at h
  obtain ⟨hconnection, h⟩ := h
  rw [Except.ite_throw_bind] at h
  obtain ⟨hmodel, h⟩ := h
  obtain ⟨print, -, h⟩ := Except.bind_eq_ok.mp h
  obtain ⟨adapter, -, h⟩ := Except.bind_eq_ok.mp h
  rw [Except.ite_throw_bind] at h
  obtain ⟨hadapter, h⟩ := h
  obtain ⟨id, -, h⟩ := Except.bind_eq_ok.mp h
  obtain ⟨generation, -, h⟩ := Except.bind_eq_ok.mp h
  obtain ⟨director, -, h⟩ := Except.bind_eq_ok.mp h
  obtain ⟨policy, -, h⟩ := Except.bind_eq_ok.mp h
  obtain rfl := Except.ok.inj h
  simp only [Bool.not_eq_true', Bool.not_eq_false, sameReference_iff] at hconnection hmodel
  exact ⟨hconnection, hmodel, not_not.mp hadapter⟩

theorem parseDecisionSnapshot_restores :
    Restores (parseDecisionSnapshot normalize) DecisionSnapshot.toJson := by
  intro value snapshot h w hw
  obtain ⟨hconnectionRef, hmodelRef, hadapterId⟩ := parseDecisionSnapshot_consistent h
  obtain ⟨fields, -, h⟩ := Except.bind_eq_ok.mp h
  obtain ⟨connection, hconnection, h⟩ := Except.bind_eq_ok.mp h
  obtain ⟨model, hmodel, h⟩ := Except.bind_eq_ok.mp h
  obtain ⟨binding, hbinding, h⟩ := Except.bind_eq_ok.mp h
  rw [Except.ite_throw_bind] at h
  have h := h.2
  rw [Except.ite_throw_bind] at h
  obtain ⟨print, hprint, h⟩ := Except.bind_eq_ok.mp h.2
  obtain ⟨adapter, hadapter, h⟩ := Except.bind_eq_ok.mp h
  rw [Except.ite_throw_bind] at h
  obtain ⟨id, hid, h⟩ := Except.bind_eq_ok.mp h.2
  obtain ⟨generation, hgeneration, h⟩ := Except.bind_eq_ok.mp h
  obtain ⟨director, hdirector, h⟩ := Except.bind_eq_ok.mp h
  obtain ⟨policy, hpolicy, h⟩ := Except.bind_eq_ok.mp h
  obtain rfl := Except.ok.inj h
  obtain ⟨found, hfound, hget, -⟩ := dataFields_of_same hw
    ["id", "binding", "connection", "model", "effectiveGeneration", "adapter",
      "capabilityFingerprint", "directorRevision", "policyRevision"]
    ["adapter", "binding", "capabilityFingerprint", "connection", "directorRevision",
      "effectiveGeneration", "id", "model", "policyRevision"] [] rfl
    (by decide) (by decide) (by decide) "decision snapshot"
  rcases hget with _ | ⟨⟨v₁, h₁, hs₁⟩, _ | ⟨⟨v₂, h₂, hs₂⟩, _ | ⟨⟨v₃, h₃, hs₃⟩,
    _ | ⟨⟨v₄, h₄, hs₄⟩, _ | ⟨⟨v₅, h₅, hs₅⟩, _ | ⟨⟨v₆, h₆, hs₆⟩, _ | ⟨⟨v₇, h₇, hs₇⟩,
    _ | ⟨⟨v₈, h₈, hs₈⟩, _ | ⟨⟨v₉, h₉, hs₉⟩, _⟩⟩⟩⟩⟩⟩⟩⟩⟩
  have hid : canonicalId (.ofJson v₁) "decision snapshot id" = .ok id :=
    canonicalId_restores _ _ _ hid v₁ hs₁
  have hbinding := parseRoomBinding_restores _ _ hbinding v₂ hs₂
  have hconnection := snapshotConnection_restores _ _ hconnection v₃ hs₃
  have hmodel := parseModelProfile_restores normalize _ _ hmodel v₄ hs₄
  have hgeneration := generationDefaults_restores _ _ hgeneration v₅ hs₅
  have hadapter := adapterEvidence_restores _ _ hadapter v₆ hs₆
  have hprint := fingerprint_restores _ _ hprint v₇ hs₇
  have hdirector : revision (.ofJson v₈) "decision snapshot directorRevision" = .ok director :=
    revision_restores _ _ _ hdirector v₈ hs₈
  have hpolicy : revision (.ofJson v₉) "decision snapshot policyRevision" = .ok policy :=
    revision_restores _ _ _ hpolicy v₉ hs₉
  have hconnectionRef := sameReference_iff.mpr hconnectionRef
  have hmodelRef := sameReference_iff.mpr hmodelRef
  dsimp only at hconnectionRef hmodelRef hadapterId
  simp [parseDecisionSnapshot, hfound, h₁, h₂, h₃, h₄, h₅, h₆, h₇, h₈, h₉, hid, hbinding,
    hconnection, hmodel, hgeneration, hadapter, hprint, hdirector, hpolicy, hconnectionRef,
    hmodelRef, hadapterId, bind, Except.bind, pure, Except.pure]

end

/-! ## What is read is what was given -/

theorem canonicalId_reads {s s' : JsString} {label : String}
    (h : canonicalId (.str s) label = .ok s') : s' = s := by
  dsimp only [canonicalId] at h
  split at h
  · exact (Except.ok.inj h).symm
  · cases h

theorem fingerprint_reads {s s' : JsString} (h : fingerprint (.str s) = .ok s') : s' = s := by
  dsimp only [fingerprint] at h
  split at h
  · exact (Except.ok.inj h).symm
  · cases h

theorem modelId_reads {normalize : JsString → JsString} {s s' : JsString}
    (h : modelId normalize (.str s) = .ok s') : s' = s := by
  dsimp only [modelId] at h
  split at h
  · exact (Except.ok.inj h).symm
  · cases h

theorem integer_reads {n n' minimum maximum : ℕ} {message : String}
    (h : integer (.num n) minimum maximum message = .ok n') : n' = n := by
  dsimp only [integer] at h
  split at h
  · simpa using (Except.ok.inj h).symm
  · cases h

theorem snapshotConnection_reads {connection connection' : SnapshotConnectionProfile}
    (h : snapshotConnection (.ofJson connection.toJson) = .ok connection') :
    connection' = connection := by
  obtain ⟨profile, hprofile, h⟩ := Except.bind_eq_ok.mp h
  obtain ⟨fields, hfields, hprofile⟩ := Except.bind_eq_ok.mp hprofile
  obtain rfl := Except.ok.inj hfields
  obtain ⟨id, hid, hprofile⟩ := Except.bind_eq_ok.mp hprofile
  obtain ⟨target, htarget, hprofile⟩ := Except.bind_eq_ok.mp hprofile
  obtain ⟨number, hnumber, hprofile⟩ := Except.bind_eq_ok.mp hprofile
  obtain ⟨credentialRef, -, hprofile⟩ := Except.bind_eq_ok.mp hprofile
  obtain ⟨mutationId, -, hprofile⟩ := Except.bind_eq_ok.mp hprofile
  obtain rfl := Except.ok.inj hprofile
  rw [Except.ite_throw_bind] at h
  obtain rfl : id = connection.id := canonicalId_reads hid
  obtain rfl : number = connection.revision := integer_reads hnumber
  have hsame := connectionTarget_toJson connection.target (w := connection.target.toJson)
    (Json.same_of_sorted_eq _ _ rfl)
  obtain rfl : target = connection.target := Except.ok.inj (htarget.symm.trans hsame)
  exact (Except.ok.inj h.2).symm

theorem profileRevisionRef_reads {reference reference' : ProfileRevisionRef} {label : String}
    (h : profileRevisionRef (.ofJson reference.toJson) label = .ok reference') :
    reference' = reference := by
  obtain ⟨fields, hfields, h⟩ := Except.bind_eq_ok.mp h
  obtain rfl := Except.ok.inj hfields
  obtain ⟨profileId, hid, h⟩ := Except.bind_eq_ok.mp h
  obtain ⟨number, hnumber, h⟩ := Except.bind_eq_ok.mp h
  obtain rfl := Except.ok.inj h
  obtain rfl : profileId = reference.profileId := canonicalId_reads hid
  obtain rfl : number = reference.revision := integer_reads hnumber
  rfl

theorem generationDefaults_reads {generation generation' : GenerationDefaults}
    (h : generationDefaults (.ofJson generation.toJson) = .ok generation') :
    generation' = generation := by
  obtain ⟨fields, hfields, h⟩ := Except.bind_eq_ok.mp h
  obtain rfl := Except.ok.inj hfields
  split at h
  · next temperature htemperature =>
      rw [Except.ite_throw_bind] at h
      obtain ⟨tokens, htokens, h⟩ := Except.bind_eq_ok.mp h.2
      obtain rfl := Except.ok.inj h
      obtain rfl : temperature = generation.temperature := (Unknown.num.inj htemperature).symm
      obtain rfl : tokens = generation.maxOutputTokens := integer_reads htokens
      rfl
  · cases h

theorem requiredCapabilities_reads {capabilities capabilities' : List ModelCapability}
    (h : requiredCapabilities (.ofJson
      (.arr (capabilities.map fun capability => text capability.name))) = .ok capabilities') :
    capabilities' = capabilities := by
  have htexts : capabilities.map (fun capability => text capability.name) =
      (capabilities.map fun capability => ofString capability.name).map Json.str := by
    rw [List.map_map]
    rfl
  rw [htexts, Unknown.ofJson, requiredCapabilities, ofElements_isElement,
    mapM_capabilityAt _ (by simp), Except.ite_throw_bind] at h
  obtain ⟨found, hfound, h⟩ := Except.bind_eq_ok.mp h.2
  obtain rfl := Except.ok.inj hfound
  rw [Except.ite_throw_bind] at h
  exact (Except.ok.inj h.2).symm

section

variable {normalize : JsString → JsString}

theorem parseModelProfile_reads {profile profile' : ModelProfile}
    (h : parseModelProfile normalize (.ofJson profile.toJson) = .ok profile') :
    profile' = profile := by
  obtain ⟨fields, hfields, h⟩ := Except.bind_eq_ok.mp h
  obtain rfl := Except.ok.inj hfields
  obtain ⟨id, hid, h⟩ := Except.bind_eq_ok.mp h
  obtain ⟨number, hnumber, h⟩ := Except.bind_eq_ok.mp h
  obtain ⟨connection, hconnection, h⟩ := Except.bind_eq_ok.mp h
  obtain ⟨name, hname, h⟩ := Except.bind_eq_ok.mp h
  obtain ⟨capabilities, hcapabilities, h⟩ := Except.bind_eq_ok.mp h
  obtain ⟨generation, hgeneration, h⟩ := Except.bind_eq_ok.mp h
  obtain rfl := Except.ok.inj h
  obtain rfl : id = profile.id := canonicalId_reads hid
  obtain rfl : number = profile.revision := integer_reads hnumber
  obtain rfl : connection = profile.connection := profileRevisionRef_reads hconnection
  obtain rfl : name = profile.modelId := modelId_reads hname
  obtain rfl : capabilities = profile.requiredCapabilities :=
    requiredCapabilities_reads hcapabilities
  obtain rfl : generation = profile.generation := generationDefaults_reads hgeneration
  rfl

theorem parseRoomBinding_reads {binding binding' : RoomBinding}
    (h : parseRoomBinding (.ofJson binding.toJson) = .ok binding') : binding' = binding := by
  obtain ⟨fields, hfields, h⟩ := Except.bind_eq_ok.mp h
  obtain rfl := Except.ok.inj hfields
  split at h
  · rw [Except.ite_throw_bind] at h
    obtain ⟨-, h⟩ := h
    obtain ⟨id, hid, h⟩ := Except.bind_eq_ok.mp h
    obtain ⟨number, hnumber, h⟩ := Except.bind_eq_ok.mp h
    obtain ⟨roomId, hroom, h⟩ := Except.bind_eq_ok.mp h
    obtain ⟨model, hmodel, h⟩ := Except.bind_eq_ok.mp h
    obtain rfl := Except.ok.inj h
    obtain rfl : id = binding.id := canonicalId_reads hid
    obtain rfl : number = binding.revision := integer_reads hnumber
    obtain rfl : roomId = binding.roomId := canonicalId_reads hroom
    obtain rfl : model = binding.model := profileRevisionRef_reads hmodel
    rfl
  · cases h

theorem adapterEvidence_reads {adapter adapter' : AdapterEvidence}
    (h : adapterEvidence (.ofJson adapter.toJson) = .ok adapter') : adapter' = adapter := by
  obtain ⟨fields, hfields, h⟩ := Except.bind_eq_ok.mp h
  obtain rfl := Except.ok.inj hfields
  split at h
  · next version hversion =>
      rw [Except.ite_throw_bind] at h
      obtain ⟨-, h⟩ := h
      obtain ⟨name, hname, h⟩ := Except.bind_eq_ok.mp h
      obtain rfl : name = ofString adapter.id.name := canonicalId_reads hname
      rw [named_adapterName] at h
      obtain rfl := Except.ok.inj h
      obtain rfl : version = adapter.version := (Unknown.str.inj hversion).symm
      rfl
  · cases h

/-- What is read from the object of a snapshot is the snapshot. -/
theorem parseDecisionSnapshot_reads {snapshot snapshot' : DecisionSnapshot}
    (h : parseDecisionSnapshot normalize (.ofJson snapshot.toJson) = .ok snapshot') :
    snapshot' = snapshot := by
  obtain ⟨fields, hfields, h⟩ := Except.bind_eq_ok.mp h
  obtain rfl := Except.ok.inj hfields
  obtain ⟨connection, hconnection, h⟩ := Except.bind_eq_ok.mp h
  obtain ⟨model, hmodel, h⟩ := Except.bind_eq_ok.mp h
  obtain ⟨binding, hbinding, h⟩ := Except.bind_eq_ok.mp h
  rw [Except.ite_throw_bind] at h
  have h := h.2
  rw [Except.ite_throw_bind] at h
  obtain ⟨print, hprint, h⟩ := Except.bind_eq_ok.mp h.2
  obtain ⟨adapter, hadapter, h⟩ := Except.bind_eq_ok.mp h
  rw [Except.ite_throw_bind] at h
  obtain ⟨id, hid, h⟩ := Except.bind_eq_ok.mp h.2
  obtain ⟨generation, hgeneration, h⟩ := Except.bind_eq_ok.mp h
  obtain ⟨director, hdirector, h⟩ := Except.bind_eq_ok.mp h
  obtain ⟨policy, hpolicy, h⟩ := Except.bind_eq_ok.mp h
  obtain rfl := Except.ok.inj h
  obtain rfl : connection = snapshot.connection := snapshotConnection_reads hconnection
  obtain rfl : model = snapshot.model := parseModelProfile_reads hmodel
  obtain rfl : binding = snapshot.binding := parseRoomBinding_reads hbinding
  obtain rfl : print = snapshot.capabilityFingerprint := fingerprint_reads hprint
  obtain rfl : adapter = snapshot.adapter := adapterEvidence_reads hadapter
  obtain rfl : id = snapshot.id := canonicalId_reads hid
  obtain rfl : generation = snapshot.effectiveGeneration := generationDefaults_reads hgeneration
  obtain rfl : director = snapshot.directorRevision := integer_reads hdirector
  obtain rfl : policy = snapshot.policyRevision := integer_reads hpolicy
  rfl

end

/-! ## The text of a snapshot -/

theorem distinct_target (target : ConnectionTarget) : target.toJson.Distinct := by
  cases target with
  | approvedProvider definitionId =>
      exact ⟨show (["class", "definitionId"].map ofString).Nodup by decide, trivial, trivial,
        trivial⟩
  | localEndpoint adapter =>
      exact ⟨show (["class", "adapter"].map ofString).Nodup by decide, trivial, trivial, trivial⟩

theorem distinct_texts {α : Type} (name : α → String) (values : List α) :
    Json.DistinctElements (values.map fun value => text (name value)) := by
  induction values with
  | nil => trivial
  | cons value values ih => exact ⟨trivial, ih⟩

theorem distinct_toJson (snapshot : DecisionSnapshot) : snapshot.toJson.Distinct := by
  have hreference (reference : ProfileRevisionRef) : reference.toJson.Distinct :=
    ⟨show (["profileId", "revision"].map ofString).Nodup by decide, trivial, trivial, trivial⟩
  have hgeneration (generation : GenerationDefaults) : generation.toJson.Distinct :=
    ⟨show (["temperature", "maxOutputTokens"].map ofString).Nodup by decide, trivial, trivial,
      trivial⟩
  have hbinding : snapshot.binding.toJson.Distinct :=
    ⟨show (["id", "revision", "roomId", "purpose", "model"].map ofString).Nodup by decide, trivial,
      trivial, trivial, trivial, hreference _, trivial⟩
  have hconnection : snapshot.connection.toJson.Distinct :=
    ⟨show (["id", "revision", "target"].map ofString).Nodup by decide, trivial, trivial,
      distinct_target _, trivial⟩
  have hmodel : snapshot.model.toJson.Distinct :=
    ⟨show (["id", "revision", "connection", "modelId", "requiredCapabilities",
      "generation"].map ofString).Nodup by decide, trivial, trivial, hreference _, trivial,
      distinct_texts _ _, hgeneration _, trivial⟩
  have hadapter : snapshot.adapter.toJson.Distinct :=
    ⟨show (["id", "version"].map ofString).Nodup by decide, trivial, trivial, trivial⟩
  exact ⟨show (["id", "binding", "connection", "model", "effectiveGeneration", "adapter",
    "capabilityFingerprint", "directorRevision", "policyRevision"].map ofString).Nodup by decide,
    trivial, hbinding, hconnection, hmodel, hgeneration _, hadapter, trivial, trivial, trivial,
    trivial⟩

theorem namesOfElements_texts {α : Type} (name : α → String) (values : List α) :
    Json.namesOfElements
      (values.map fun value => (.str (ofString (name value)) : Json ℚ)) = [] := by
  induction values with
  | nil => rfl
  | cons value values ih =>
      rw [List.map_cons, Json.namesOfElements, ih, Json.names, List.append_nil]

/-- The members of a snapshot, by the kind of its target. -/
theorem names_eq (snapshot : DecisionSnapshot) :
    ∃ last, (last = "definitionId" ∨ last = "adapter") ∧
    snapshot.toJson.names = ["id", "binding", "id", "revision", "roomId", "purpose", "model",
      "profileId", "revision", "connection", "id", "revision", "target", "class", last, "model",
      "id", "revision", "connection", "profileId", "revision", "modelId", "requiredCapabilities",
      "generation", "temperature", "maxOutputTokens", "effectiveGeneration", "temperature",
      "maxOutputTokens", "adapter", "id", "version", "capabilityFingerprint", "directorRevision",
      "policyRevision"].map ofString := by
  cases htarget : snapshot.connection.target with
  | approvedProvider definitionId =>
      refine ⟨"definitionId", .inl rfl, ?_⟩
      simp [DecisionSnapshot.toJson, RoomBinding.toJson, SnapshotConnectionProfile.toJson, htarget,
        ConnectionTarget.toJson, ModelProfile.toJson, ProfileRevisionRef.toJson,
        GenerationDefaults.toJson, AdapterEvidence.toJson, text, Json.names, Json.namesOfMembers,
        namesOfElements_texts]
  | localEndpoint adapter =>
      refine ⟨"adapter", .inr rfl, ?_⟩
      simp [DecisionSnapshot.toJson, RoomBinding.toJson, SnapshotConnectionProfile.toJson, htarget,
        ConnectionTarget.toJson, ModelProfile.toJson, ProfileRevisionRef.toJson,
        GenerationDefaults.toJson, AdapterEvidence.toJson, text, Json.names, Json.namesOfMembers,
        namesOfElements_texts]

/-- No member of a snapshot is a credential reference or a mutation id. -/
theorem names_toJson (snapshot : DecisionSnapshot) :
    ofString "credentialRef" ∉ snapshot.toJson.names ∧
      ofString "mutationId" ∉ snapshot.toJson.names := by
  obtain ⟨last, rfl | rfl, hnames⟩ := names_eq snapshot
  · rw [hnames]
    decide
  · rw [hnames]
    decide

end Parse

end GreenRoom.Providers
