import DualKey.System.Replay

/-!
# The program refines the abstract vault

Every successful instruction on a vault is one step of the abstract vault under
`recordOf`, taken for the command its data and the clock spell out, and leaves the records
of all other vaults alone.

The proof goes operation by operation (`Performs.refines`). The fields of the account and
the guardianship after an operation are known from `VaultEffect` and
`Performs.guardianship`; what remains is to read the record off them, and to see that the
guards of the abstract step are among the checks of the handler.
-/

namespace DualKey

open Transition

variable {P : Platform} {m m' : Machine} {v : Pubkey} {l : Label}

/-! ### Records of updated fields -/

section Records

variable {f : HybridFields} {policy : AuthorizationPolicy} {g : Option Guardianship}

/-- An operation that does not touch flags and threshold leaves them in the record. -/
theorem record_flags (f f' : HybridFields) (hflags : f'.flags = f.flags)
    (habove : f'.falconRequiredAbove = f.falconRequiredAbove) :
    f'.threshold = f.threshold ∧ f'.recovery = f.recovery :=
  ⟨HybridFields.threshold_congr hflags habove, HybridFields.recovery_congr hflags⟩

/-- The record after an operation that consumes a nonce and changes nothing else of the vault. -/
theorem record_consume {g' : Option Guardianship}
    (hnonce : f.nonce.toNat + 1 = (f.nonce + 1).toNat) :
    HybridFields.record { f with nonce := f.nonce + 1 } policy g' =
      { (f.record policy g).consume with guardianship := g' } := by
  obtain ⟨hthreshold, hrecovery⟩ :=
    record_flags f { f with nonce := f.nonce + 1 } rfl rfl
  exact VaultRecord.ext rfl hthreshold hrecovery rfl rfl rfl hnonce.symm rfl rfl rfl

/-- The record after a transfer. -/
theorem record_execute (hnonce : f.nonce.toNat + 1 = (f.nonce + 1).toNat) :
    HybridFields.record { f with nonce := f.nonce + 1 } policy g =
      (f.record policy g).consume := by
  rw [record_consume (g := g) hnonce]
  exact VaultRecord.ext rfl rfl rfl rfl rfl rfl rfl rfl rfl rfl

/-- The record after a cancellation. -/
theorem record_cancel (hnonce : f.nonce.toNat + 1 = (f.nonce + 1).toNat) :
    HybridFields.record { f with nonce := f.nonce + 1 } policy
        (g.map fun (g : Guardianship) => { g with pending := none }) =
      (f.record policy g).clearPending.consume := by
  rw [record_consume (g := g) hnonce]
  exact VaultRecord.ext rfl rfl rfl rfl rfl rfl rfl rfl rfl rfl

/-- The record after an operation that replaces the owner. -/
theorem record_rotateOwner {key : Pubkey} (hnonce : f.nonce.toNat + 1 = (f.nonce + 1).toNat) :
    HybridFields.record { f with ownerEd25519 := key, nonce := f.nonce + 1 } policy
        (g.map fun (g : Guardianship) => { g with pending := none }) =
      { (f.record policy g).clearPending.consume with owner := key } := by
  obtain ⟨hthreshold, hrecovery⟩ := record_flags f
    { f with ownerEd25519 := key, nonce := f.nonce + 1 } rfl rfl
  exact VaultRecord.ext rfl hthreshold hrecovery rfl rfl rfl hnonce.symm rfl rfl rfl

/-- The record after a rotation of the Falcon key. -/
theorem record_rotateFalcon {hash : Digest} {prepared : PreparedFalconPubkey}
    (hnonce : f.nonce.toNat + 1 = (f.nonce + 1).toNat) :
    HybridFields.record ((VaultOp.rotateFalcon hash prepared).onFields f) policy g =
      { (f.record policy g).consume with falconHash := hash, prepared := prepared } := by
  obtain ⟨hthreshold, hrecovery⟩ := record_flags f
    ((VaultOp.rotateFalcon hash prepared).onFields f) rfl rfl
  exact VaultRecord.ext rfl hthreshold hrecovery rfl rfl rfl hnonce.symm rfl rfl rfl

/-- The record after a policy change: the threshold shares the flags byte with the recovery
flag, which stays. -/
theorem record_changePolicy {target : AuthorizationPolicy} {threshold : UInt64}
    (hnonce : f.nonce.toNat + 1 = (f.nonce + 1).toNat) :
    HybridFields.record ((VaultOp.changePolicy target
        (ChangePolicy.resultingThreshold target threshold)).onFields f) target g =
      { (f.record policy g).consume with
        policy := target
        threshold := if target = .falconAboveThreshold then some threshold else none } := by
  have hthreshold := HybridFields.threshold_setThreshold f
    (ChangePolicy.resultingThreshold target threshold)
  have hno : ∀ b, VaultOp.changePolicy target
      (ChangePolicy.resultingThreshold target threshold) ≠ .setRecovery b := by simp
  have hrecovery := VaultOp.onFields_recovery (f := f) hno
  refine VaultRecord.ext rfl ?_ hrecovery rfl rfl rfl hnonce.symm rfl rfl rfl
  exact (HybridFields.threshold_congr rfl rfl).trans hthreshold

/-- The record after the recovery flag was set or cleared. -/
theorem record_setRecovery {enabled : Bool}
    (hnonce : f.nonce.toNat + 1 = (f.nonce + 1).toNat) :
    HybridFields.record ((VaultOp.setRecovery enabled).onFields f) policy g =
      { (f.record policy g).consume with recovery := enabled } := by
  have hno : ∀ p t, VaultOp.setRecovery enabled ≠ .changePolicy p t := by simp
  have hthreshold := (VaultOp.onFields_policy (f := f) hno).2
  have hrecovery := VaultOp.onFields_setRecovery (b := enabled) (f := f)
  exact VaultRecord.ext rfl hthreshold hrecovery rfl rfl rfl hnonce.symm rfl rfl rfl

end Records

/-! ### One operation -/

/-- **An operation is one step of the abstract vault.** -/
theorem Performs.refines {inv : Invocation} {vault : AccountInfo} {op : VaultOp}
    {a a' : HybridAccount} {policy policy' : AuthorizationPolicy}
    (h : Performs P inv m vault op m') (hix : inv.instruction = some op.instruction)
    (heffect : VaultEffect P m vault.key op m' a a')
    (hpolicy : AuthorizationPolicy.fromU8 a.fields.policy = some policy)
    (hpolicy' : AuthorizationPolicy.fromU8 a'.fields.policy = some policy') :
    ∃ c, inv.command = some c ∧
      (a.fields.record policy (guardianshipOf P m vault.key)).step P.sha256 P.tryPreparePubkey c =
        some (a'.fields.record policy' (guardianshipOf P m' vault.key)) := by
  -- the checked increment of the nonce did not wrap
  have hnext : op.consumesNonce = true →
      a.fields.nonce.toNat + 1 = (a.fields.nonce + 1).toNat := by
    intro hconsumes
    have hafter := heffect.nonce hconsumes
    rw [heffect.fields, op.onFields_nonce, if_pos hconsumes] at hafter
    exact hafter
  have hguardianship := h.guardianship
  rw [heffect.fields] at hpolicy' ⊢
  rw [hguardianship]
  generalize hg : guardianshipOf P m vault.key = g
  -- only a policy change changes the policy of the record
  have hsame (hno : ∀ p t, op ≠ .changePolicy p t) : policy' = policy := by
    rw [(VaultOp.onFields_policy hno).1] at hpolicy'
    exact Option.some.inj (hpolicy'.symm.trans hpolicy)
  cases h with
  | transferSol hpresents hc hmoves =>
    obtain rfl := hsame (by simp)
    refine ⟨.execute, by rw [Invocation.command, hix]; rfl, ?_⟩
    exact congrArg some (record_execute (hnext rfl)).symm
  | transferSpl hpresents hc hmoves =>
    obtain rfl := hsame (by simp)
    refine ⟨.execute, by rw [Invocation.command, hix]; rfl, ?_⟩
    exact congrArg some (record_execute (hnext rfl)).symm
  | @rotateEd25519 config sysvar wire falconSig newPubkey b auth _ hpresents hc hclears =>
    obtain rfl := hsame (by simp)
    refine ⟨.rotateOwner newPubkey, ?_, ?_⟩
    · simp only [Invocation.command, hix, VaultOp.instruction, hpresents.wire, hc.action]
    · exact congrArg some (record_rotateOwner (hnext rfl)).symm
  | @rotateFalcon sysvar wire falconSig newWirePk falconPop prepared b auth hpresents hkey hc =>
    obtain rfl := hsame (by simp)
    refine ⟨.rotateFalcon newWirePk, ?_, ?_⟩
    · simp only [Invocation.command, hix, VaultOp.instruction, hkey.key]
    · -- the abstract step prepares the key again, with the same result
      have hprepared : P.tryPreparePubkey newWirePk = some prepared := by
        have hprepare := hc.prepared
        simp only [prepareFalconKey, Res.bind_eq_ok, Res.okOr_eq_ok] at hprepare
        obtain ⟨-, -, hprepare⟩ := hprepare
        exact hprepare
      rw [VaultRecord.step_rotateFalcon hprepared]
      exact congrArg some (record_rotateFalcon (hnext rfl)).symm
  | @changePolicy sysvar wire falconSig newPolicy threshold target b auth hpresents hc =>
    have htarget : policy' = target := by
      have hbyte := AuthorizationPolicy.fromU8_asU8 target
      exact Option.some.inj (hpolicy'.symm.trans hbyte)
    subst htarget
    refine ⟨.changePolicy policy' threshold, ?_, ?_⟩
    · simp only [Invocation.command, hix, VaultOp.instruction, hpresents.wire, hc.action, hc.parsed,
        Option.map_some]
    · exact congrArg some (record_changePolicy (hnext rfl)).symm
  | @setRecovery sysvar wire falconSig enabled b auth hpresents hc =>
    obtain rfl := hsame (by simp)
    refine ⟨.setRecovery enabled, ?_, ?_⟩
    · cases enabled <;>
        simp [Invocation.command, hix, VaultOp.instruction, hpresents.wire, hc.action]
    · exact congrArg some (record_setRecovery (hnext rfl)).symm
  | @recoverEd25519 config sysvar wire falconSig newEd25519 b auth _ hpresents hc hclears =>
    obtain rfl := hsame (by simp)
    refine ⟨.rotateOwner newEd25519, ?_, ?_⟩
    · simp only [Invocation.command, hix, VaultOp.instruction, hpresents.wire, hc.action]
    · exact congrArg some (record_rotateOwner (hnext rfl)).symm
  | @setConfig config payer sysvar wire falconSig guardian delay bump b auth m₁ hpresents hc
      hstores =>
    obtain rfl := hsame (by simp)
    refine ⟨.setConfig guardian delay, ?_, ?_⟩
    · simp only [Invocation.command, hix, VaultOp.instruction, hpresents.wire, hc.action]
    · -- a config is stored only while no proposal is pending
      have hidle : (a.fields.record policy' g).pending = none := by
        rw [← hg]
        exact hstores.idle hc.address
      rw [VaultRecord.step_setConfig hidle]
      exact congrArg some (record_consume (hnext rfl)).symm
  | @initiate config sysvar newEd25519 ready b c hpayload hc =>
    obtain rfl := hsame (by simp)
    -- the payload is the proposed key itself
    have hlen : inv.payload.length = 32 := by rw [← hpayload, newEd25519.toList_length]
    have hkey : (⟨inv.payload, hlen⟩ : Pubkey) = newEd25519 := Subtype.ext hpayload.symm
    refine ⟨.initiate newEd25519 inv.slot, ?_, ?_⟩
    · simp only [Invocation.command, hix, VaultOp.instruction, hlen, dif_pos, hkey]
    · obtain ⟨bump, haddress⟩ := hc.address
      have hidle : g = some
          { guardian := c.fields.guardianEd25519
            delay := c.fields.delaySlots
            pending := none } := by
        rw [← hg, guardianshipOf_config haddress hc.configOwner hc.configData, ← hc.idle]
        rfl
      rw [VaultRecord.step_initiate hidle hc.ready, hidle]
      rfl
  | @finalize config pending ready next b c hc =>
    obtain rfl := hsame (by simp)
    refine ⟨.finalize inv.slot, ?_, ?_⟩
    · simp only [Invocation.command, hix, VaultOp.instruction]
    · obtain ⟨bump, haddress⟩ := hc.address
      have hpending : (a.fields.record policy' g).pending = some (pending, ready) := by
        rw [← hg, guardianshipOf_config haddress hc.configOwner hc.configData, ← hc.pending]
        rfl
      rw [VaultRecord.step_finalize hpending hc.elapsed]
      exact congrArg some (record_rotateOwner (hnext rfl)).symm
  | @cancel config sysvar wire falconSig b c auth hpresents hc =>
    obtain rfl := hsame (by simp)
    refine ⟨.cancel, ?_, ?_⟩
    · simp only [Invocation.command, hix, VaultOp.instruction, hpresents.wire, hc.action]
    · obtain ⟨bump, haddress⟩ := hc.address
      obtain ⟨p, hp⟩ := hc.pending
      have hpending : (a.fields.record policy' g).pending ≠ none := by
        rw [← hg, guardianshipOf_config haddress hc.configOwner hc.configData]
        show c.fields.pending ≠ none
        rw [hp]
        exact Option.some_ne_none p
      rw [VaultRecord.step_cancel hpending]
      exact congrArg some (record_cancel (hnext rfl)).symm

/-! ### One step of the chain -/

/-- The record of a vault of a well-formed state. -/
theorem WellFormed.record {a : HybridAccount} (hwf : WellFormed P m) (hv : VaultAt P m v a) :
    ∃ policy, AuthorizationPolicy.fromU8 a.fields.policy = some policy ∧
      recordOf P m v = some (a.fields.record policy (guardianshipOf P m v)) := by
  obtain ⟨-, -, policy, hpolicy⟩ := hwf.vault hv
  exact ⟨policy, hpolicy, recordOf_eq hv hpolicy⟩

/-- A step that performs an operation is one step of the abstract vault. -/
theorem PerformsOn.refines {op : VaultOp} {inv : Invocation} (hwf : WellFormed P m)
    (hstep : Step P m (.executed inv) m') (h : PerformsOn P m v op (.executed inv) m') :
    ∃ c r r', inv.command = some c ∧ recordOf P m v = some r ∧
      r.step P.sha256 P.tryPreparePubkey c = some r' ∧ recordOf P m' v = some r' := by
  obtain ⟨a, a', heffect, hv, hv'⟩ := h.effect hwf
  obtain ⟨policy, hpolicy, hrecord⟩ := hwf.record hv
  obtain ⟨policy', hpolicy', hrecord'⟩ := (Step.wellFormed hstep hwf).record hv'
  cases h with
  | @mk _ vault _ hruntime hkey hix hperforms =>
    subst hkey
    have heffect' : VaultEffect P m.begin vault.key op m' a a' :=
      ⟨heffect.owner, heffect.data, heffect.data', heffect.fields, heffect.nonce⟩
    obtain ⟨c, hcommand, hc⟩ := hperforms.refines hix heffect' hpolicy hpolicy'
    exact ⟨c, _, _, hcommand, hrecord, hc, hrecord'⟩

/-- A step that is no call on a vault leaves its record alone. -/
theorem Step.record_frame {r : VaultRecord} (hown : OwnRecoveryAddress P v)
    (hwf : WellFormed P m) (h : Step P m l m') (hrecord : recordOf P m v = some r)
    (hcall : ∀ ix, l.call ≠ some (ix, v)) : recordOf P m' v = some r := by
  obtain ⟨a, policy, hv, hpolicy, rfl⟩ := exists_vaultAt_of_recordOf hrecord
  have hguardianship : guardianshipOf P m' v = guardianshipOf P m v := by
    rcases h.config_cases hown hwf with hsame | ⟨op, hop⟩
    · rw [guardianshipOf, guardianshipOf, hsame]
    · exact absurd hop.call (hcall _)
  rcases h.vault_cases hwf hv with hquiet | ⟨op, hop⟩
  · have hv' : VaultAt P m' v a := ⟨hquiet.owner, hquiet.data.trans hv.data, hv.version⟩
    rw [recordOf_eq hv' hpolicy, hguardianship]
  · exact absurd hop.call (hcall _)

/-- **Refinement.** In every reachable state, a successful instruction on the vault at `v` other
than its `Initialize` takes the record of the vault exactly through the abstract step of the
instruction's command; and the record of every vault the step does not call (if its recovery
address is no other vault's) stays as it is. -/
theorem record_refinement (hreach : Reachable (chain P) m) (hstep : Step P m l m') :
    (∀ (inv : Invocation) (ix : DualKeyInstruction) (v : Pubkey), l = .executed inv →
      inv.call = some (ix, v) → ix ≠ .initializeAccount →
      ∃ c r r', inv.command = some c ∧ recordOf P m v = some r ∧
        r.step P.sha256 P.tryPreparePubkey c = some r' ∧ recordOf P m' v = some r') ∧
    ∀ (w : Pubkey) (r : VaultRecord), OwnRecoveryAddress P w → recordOf P m w = some r →
      (∀ ix, l.call ≠ some (ix, w)) → recordOf P m' w = some r := by
  have hwf : WellFormed P m := Reachable.wellFormed hreach
  refine ⟨?_, fun w r hown hrecord hcall => hstep.record_frame hown hwf hrecord hcall⟩
  rintro inv ix v rfl hcall hix
  obtain ⟨op, hop, -⟩ := hstep.performsOn_of_call hcall hix
  exact hop.refines hwf hstep

open Sample in
/-- Setting a recovery config is the abstract step `setConfig` of the vault's record. -/
theorem record_refinement_replayed :
    ∃ c r r', setConfig.command = some c ∧ recordOf platform ed25519Created ed25519Vault = some r ∧
      r.step platform.sha256 platform.tryPreparePubkey c = some r' ∧
      recordOf platform (submit platform ed25519Created setConfig).post ed25519Vault = some r' := by
  have hruntime : setConfig.PrecompilesAccepted platform := by decide +kernel
  have hstep := submit_step ed25519Created hruntime
  have hcall : (submit platform ed25519Created setConfig).label.call =
      some (.setRecoveryConfig, ed25519Vault) := by
    decide +kernel
  obtain ⟨hlabel, hinv⟩ := submit_executed hcall
  exact (record_refinement ed25519Created_reachable hstep).1 setConfig _ ed25519Vault hlabel hinv
    (by decide)

end DualKey
