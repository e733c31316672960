import DualKey.Properties.NonceAccounting
import DualKey.System.Provenance

/-!
# The owner's veto

The owner of a vault gets rid of a guardian's proposal by rotating the key the proposal is
about to replace, or by cancelling. Either takes the recovery config along and fails if the
account at the recovery address is anything but empty or a recovery config. In a reachable
state it never is: only the program signs for the address, and it creates nothing but recovery
configs there, given that no vault lives at a recovery address (`Provenance.recovery_address`).

What is left are the checks of the authorization. They are met by an intent for the current
nonce that has not expired, with signatures that satisfy the policy (`Submits.authorized`).
-/

namespace DualKey

open Transition

/-- No vault address is a recovery address: the two derivations have disjoint ranges. -/
def DisjointRanges (P : Platform) : Prop :=
  ∀ creator index k bump v bump',
    P.tryFindProgramAddress (pdaSeeds creator (u32ToLe index)) P.programId = some (k, bump) →
      ¬ SocialRecovery.IsRecoveryAddress P v k bump'

/-- The transaction carries a signature the way the program looks for it: the instruction right
before is a precompile instruction with a single record, which points at the key, a signature and
the digest within the instruction itself. -/
structure Ed25519Attached (inv : Invocation) (sysvar : AccountInfo) (key : Pubkey)
    (digest : Digest) (ix : Instruction) : Prop where
  sysvar : sysvar.key = instructionsSysvarId
  predecessor : inv.predecessor = some ix
  program : ix.programId = ed25519ProgramId
  length : 16 ≤ ix.data.length
  single : Buffer.byteAt ix.data 0 = 1
  padding : Buffer.byteAt ix.data 1 = 0
  ownSignature : (ed25519Record ix.data 0).signatureIxIndex = 0xFFFF
  ownKey : (ed25519Record ix.data 0).publicKeyIxIndex = 0xFFFF
  ownMessage : (ed25519Record ix.data 0).messageIxIndex = 0xFFFF
  size : (ed25519Record ix.data 0).messageDataSize.toNat = 32
  key : Buffer.readRange ix.data (ed25519Record ix.data 0).publicKeyOffset.toNat 32 =
    some key.toList
  signature : ∃ signature,
    Buffer.readRange ix.data (ed25519Record ix.data 0).signatureOffset.toNat 64 = some signature
  message : Buffer.readRange ix.data (ed25519Record ix.data 0).messageDataOffset.toNat 32 =
    some digest.toList

/-- The invocation submits `action` to the vault `a` at the address of `vault`, along with the
recovery config: both writable, the intent not expired, and the signatures over it at the vault's
nonce those that the vault's policy requires. -/
structure Submits (P : Platform) (inv : Invocation) (ix : DualKeyInstruction)
    (vault config sysvar : AccountInfo) (a : HybridAccount) (wire : ExecuteIntentWire)
    (action : Action) : Prop where
  instruction : inv.instruction = some ix
  payload : inv.payload.length = authPayloadLen
  accounts : inv.accounts = [vault, config, sysvar]
  vaultWritable : vault.isWritable = true
  configWritable : config.isWritable = true
  address : ∃ bump, SocialRecovery.IsRecoveryAddress P vault.key config.key bump
  presents : wire.action = action
  unexpired : inv.slot ≤ wire.expirySlot
  signed : ∃ falconSig policy, Presents inv.payload wire falconSig ∧
    AuthorizationPolicy.fromU8 a.fields.policy = some policy ∧
    (policy.signatureRequirement action a.fields.threshold).SatisfiedBy
      (∃ ix', Ed25519Attached inv sysvar a.fields.ownerEd25519
        (intentDigest P vault.key a.fields.nonce wire) ix')
      (FalconValid P a.fields.preparedFalconPublicKey
        (intentDigest P vault.key a.fields.nonce wire).toList falconSig)

variable {P : Platform} {inv : Invocation} {ix : DualKeyInstruction} {m m' : Machine}
  {vault config sysvar : AccountInfo} {a : HybridAccount} {wire : ExecuteIntentWire}
  {action : Action}

/-! ### The recovery address -/

/-- A recovery address is untouched or holds a recovery config. -/
theorem Provenance.recovery_address {v k : Pubkey} {bump : UInt8} (h : Provenance P m)
    (hdisjoint : DisjointRanges P) (haddress : SocialRecovery.IsRecoveryAddress P v k bump) :
    (m.owner k = systemProgramId ∧ m.data k = []) ∨
      (m.owner k = P.programId ∧ ∃ c : RecoveryConfig, m.data k = c.data) := by
  cases h.derived k haddress.isPda with
  | untouched howner hdata => exact Or.inl ⟨howner, hdata⟩
  | vault _ hcanonical =>
    -- the address would be in both ranges
    obtain ⟨creator, hfind⟩ := hcanonical
    exact absurd haddress (hdisjoint _ _ _ _ _ _ hfind)
  | config howner hdata _ => exact Or.inr ⟨howner, _, hdata⟩

/-- A recovery config that can be written can be cleared, whatever is there. -/
theorem Provenance.clearsPending {v : Pubkey} {d : List UInt8} (h : Provenance P m)
    (hdisjoint : DisjointRanges P) (howner : m.owner v = P.programId) (ha : m.data v = a.data)
    (haddress : ∃ bump, SocialRecovery.IsRecoveryAddress P v config.key bump)
    (hwritable : config.isWritable = true) :
    ∃ m', SocialRecovery.ClearsPending P (m.setData v d) config m' := by
  obtain ⟨bump, haddress⟩ := haddress
  -- in either case the recovery address is not the vault's, so writing the vault does not show
  rcases h.recovery_address hdisjoint haddress with ⟨hsystem, hnil⟩ | ⟨hprogram, c, hc⟩
  · have hne : config.key ≠ v := by
      rintro rfl
      exact P.programId_ne_system (howner.symm.trans hsystem)
    exact ⟨_, .absent (by rw [Machine.data_setData, if_neg hne, hnil])⟩
  · have hne : config.key ≠ v := (SocialRecovery.vault_ne_config ha hc).symm
    exact ⟨_, .cleared (by rw [Machine.owner_setData, hprogram]) hwritable
      (by rw [Machine.data_setData, if_neg hne, hc])⟩

/-! ### The authorization -/

/-- What is attached passes the inspection, and nothing else does. -/
theorem ed25519Attached_iff {key : Pubkey} {digest : Digest} :
    (∃ ix', Ed25519Attached inv sysvar key digest ix') ↔
      verifyEd25519Precompile inv sysvar key digest = .ok () := by
  rw [verifyEd25519Precompile_eq_ok]
  constructor
  · rintro ⟨ix', h⟩
    exact ⟨h.sysvar, ix', h.predecessor, h.program, h.length, h.single, h.padding, h.ownSignature,
      h.ownKey, h.ownMessage, h.size, h.key, h.signature, h.message⟩
  · rintro ⟨hsysvar, ix', hix, hprogram, hlen, hnum, hpad, hsig, hkey, hmsg, hsize, hpubkey,
      hsignature, hmessage⟩
    exact ⟨ix', hsysvar, hix, hprogram, hlen, hnum, hpad, hsig, hkey, hmsg, hsize, hpubkey,
      hsignature, hmessage⟩

/-- The policy decides alone about both ways to clear a proposal. -/
theorem effectiveRequirement_of_clearing {policy : AuthorizationPolicy} {threshold : Option UInt64}
    {recovery : Bool} (h : (∃ k, action = .rotateEd25519Key k) ∨ action = .cancelSocialRecovery) :
    effectiveRequirement policy threshold recovery action =
      .ok (policy.signatureRequirement action threshold) := by
  rcases h with ⟨k, rfl⟩ | rfl
  · rfl
  · rfl

/-- **What is submitted is authorized**, as long as the nonce has a successor. -/
theorem Submits.authorized (h : Submits P inv ix vault config sysvar a wire action)
    (hva : VaultAt P m vault.key a) (hnonce : a.fields.nonce.toNat + 1 < 2 ^ 64)
    (haction : (∃ k, action = .rotateEd25519Key k) ∨ action = .cancelSocialRecovery) :
    ∃ falconSig auth, Presents inv.payload wire falconSig ∧
      auth.nextNonce = a.fields.nonce + 1 ∧
      Authorized P inv m.begin vault sysvar wire falconSig a auth := by
  obtain ⟨falconSig, policy, hpresents, hpolicy, hsat⟩ := h.signed
  -- what is left of the payload behind the intent is one Falcon signature
  have hlen : falconSig.length = falconSignatureLen := by
    rw [← hpresents.sig, List.length_take, List.length_drop, h.payload]
    rfl
  have hnext : a.fields.nonce.toNat + 1 = (a.fields.nonce + 1).toNat := by
    rw [UInt64.toNat_add]
    show _ = (a.fields.nonce.toNat + 1) % 2 ^ 64
    omega
  -- the recovery flag plays no part in either requirement
  have hreq : effectiveRequirement policy a.fields.threshold a.fields.recovery wire.action =
      .ok (policy.signatureRequirement action a.fields.threshold) := by
    rw [h.presents]
    exact effectiveRequirement_of_clearing haction
  rw [ed25519Attached_iff] at hsat
  refine ⟨falconSig, ⟨intentDigest P vault.key a.fields.nonce wire, policy, a.fields.nonce,
    a.fields.nonce + 1⟩, hpresents, rfl, ?_⟩
  exact
    { sigLen := hlen, unexpired := h.unexpired, owner := hva.owner, data := hva.data
      version := hva.version, policy := hpolicy, accountNonce := rfl, nextNonce := hnext
      digest := rfl, requirement := ⟨_, hreq, hsat⟩ }

/-! ### The two ways out -/

/-- A pending proposal is one of the vault's recovery config. -/
theorem exists_config_of_pending {v : Pubkey} {bump : UInt8}
    (haddress : SocialRecovery.IsRecoveryAddress P v config.key bump)
    (hpending : ((guardianshipOf P m v).bind fun g => g.pending) ≠ none) :
    ∃ c : RecoveryConfig, recoveryConfigOf P m v = some c ∧ m.owner config.key = P.programId ∧
      m.data config.key = c.data ∧ ∃ p, c.fields.pending = some p := by
  obtain ⟨p, hp⟩ := Option.ne_none_iff_exists'.mp hpending
  obtain ⟨g, hg, hgp⟩ := Option.bind_eq_some_iff.mp hp
  obtain ⟨c, hc, rfl⟩ := guardianshipOf_eq_some.mp hg
  obtain ⟨k, bump', haddress', howner, hdata⟩ := recoveryConfigOf_eq_some.mp hc
  obtain rfl := haddress'.unique haddress
  exact ⟨c, hc, howner, hdata, p, hgp⟩

/-- A rotation of the owner key goes through. -/
theorem Submits.rotates {k : Pubkey} (hprov : Provenance P m) (hdisjoint : DisjointRanges P)
    (hva : VaultAt P m vault.key a) (hnonce : a.fields.nonce.toNat + 1 < 2 ^ 64)
    (hchange : k ≠ a.fields.ownerEd25519)
    (h : Submits P inv .rotateEd25519Key vault config sysvar a wire (.rotateEd25519Key k)) :
    ∃ m', Processor.process P inv.accounts inv.data inv.enter m.begin = .ok ((), m') ∧
      Performs P inv m.begin vault (.rotateEd25519 k) m' := by
  obtain ⟨falconSig, auth, hpresents, -, hauth⟩ := h.authorized hva hnonce (Or.inl ⟨k, rfl⟩)
  have hc : Rotate.Ed25519Checks P inv m.begin vault config sysvar wire falconSig k a auth :=
    { accounts := h.accounts, vaultWritable := h.vaultWritable, action := h.presents
      change := hchange, authorized := hauth, address := h.address }
  obtain ⟨m', hclears⟩ := hprov.begin.clearsPending hdisjoint hva.owner hva.data h.address
    h.configWritable
  refine ⟨m', ?_, .rotateEd25519 hpresents hc hclears⟩
  rw [process_of_instruction h.instruction]
  exact Rotate.processRotateEd25519_eq_ok.mpr
    ⟨h.payload, wire, falconSig, hpresents, vault, config, sysvar, k, a, auth, hc, hclears⟩

/-- A cancellation of a pending proposal goes through. -/
theorem Submits.cancels {c : RecoveryConfig} (hva : VaultAt P m vault.key a)
    (hnonce : a.fields.nonce.toNat + 1 < 2 ^ 64) (hflag : a.fields.recovery = true)
    (howner : m.owner config.key = P.programId) (hdata : m.data config.key = c.data)
    (hpending : ∃ p, c.fields.pending = some p)
    (h : Submits P inv .cancelSocialRecovery vault config sysvar a wire .cancelSocialRecovery) :
    Processor.process P inv.accounts inv.data inv.enter m.begin =
      .ok ((), (m.begin.setData config.key c.clearPending.data).setData vault.key
        (a.setNonce (a.fields.nonce + 1)).data) := by
  obtain ⟨falconSig, auth, hpresents, hnext, hauth⟩ := h.authorized hva hnonce (Or.inr rfl)
  rw [← hnext]
  rw [process_of_instruction h.instruction]
  refine SocialRecovery.processCancelSocialRecovery_eq_ok.mpr
    ⟨h.payload, wire, falconSig, hpresents, vault, config, sysvar, a, c, auth, ?_, rfl⟩
  exact
    { accounts := h.accounts, vaultWritable := h.vaultWritable
      configWritable := h.configWritable, configOwner := howner, address := h.address
      configData := hdata, enabled := hflag, action := h.presents, pending := hpending
      authorized := hauth }

/-- **The owner can always get rid of a proposal.** In a reachable state, with a nonce that has a
successor and no vault at a recovery address: a rotation to another owner key, submitted with the
signatures the policy requires, succeeds, installs the key and leaves no proposal pending. The
recovery flag may be set or clear, and the recovery address untouched, prefunded, or with an idle or
pending config. If the flag is set and a proposal pending, a cancellation succeeds, and clears the
proposal and consumes a nonce and changes nothing else. -/
theorem owner_vetoes (hreach : Reachable (chain P) m) (hdisjoint : DisjointRanges P)
    (hva : VaultAt P m vault.key a) (hnonce : a.fields.nonce.toNat + 1 < 2 ^ 64) :
    (∀ (k : Pubkey) (inv : Invocation) (config sysvar : AccountInfo) (wire : ExecuteIntentWire),
      k ≠ a.fields.ownerEd25519 →
      Submits P inv .rotateEd25519Key vault config sysvar a wire (.rotateEd25519Key k) →
      ∃ m' a', Processor.process P inv.accounts inv.data inv.enter m.begin = .ok ((), m') ∧
        VaultAt P m' vault.key a' ∧ a'.fields.ownerEd25519 = k ∧
        ((guardianshipOf P m' vault.key).bind fun g => g.pending) = none) ∧
    ∀ (inv : Invocation) (config sysvar : AccountInfo) (wire : ExecuteIntentWire),
      ((guardianshipOf P m vault.key).bind fun g => g.pending) ≠ none →
      a.fields.recovery = true →
      Submits P inv .cancelSocialRecovery vault config sysvar a wire .cancelSocialRecovery →
      ∃ m' a' c c', Processor.process P inv.accounts inv.data inv.enter m.begin = .ok ((), m') ∧
        VaultAt P m' vault.key a' ∧ a'.fields = { a.fields with nonce := a.fields.nonce + 1 } ∧
        recoveryConfigOf P m vault.key = some c ∧ recoveryConfigOf P m' vault.key = some c' ∧
        c'.fields = { c.fields with pendingNewEd25519 := ByteVec.zero 32, pendingReadySlot := 0 } ∧
        ((guardianshipOf P m' vault.key).bind fun g => g.pending) = none ∧
        (∀ k, m'.owner k = m.owner k ∧ m'.lamports k = m.lamports k) ∧
        (∀ k, k ≠ vault.key → k ≠ config.key → m'.data k = m.data k) ∧ m'.cpis = [] := by
  have hprov := Reachable.provenance hreach
  refine ⟨?_, ?_⟩
  · intro k inv config sysvar wire hchange h
    obtain ⟨m', hprocess, hperforms⟩ := h.rotates hprov hdisjoint hva hnonce hchange
    -- the rest is the effect of a rotation
    obtain ⟨b, a', heffect, -, hvalid⟩ := hperforms.effect_valid hprov.begin.wellFormed
    have howner' := hperforms.frame.owner _ heffect.owner
    refine ⟨m', a', hprocess, ⟨howner', heffect.data', ?_⟩, ?_, ?_⟩
    · rw [heffect.fields]
      exact (VaultOp.onFields_valid hvalid).1
    · rw [heffect.fields]
      rfl
    · rw [hperforms.guardianship]
      cases guardianshipOf P m.begin vault.key <;> rfl
  · intro inv config sysvar wire hpending hflag h
    obtain ⟨bump, haddress⟩ := h.address
    obtain ⟨c, hc, howner, hdata, hp⟩ := exists_config_of_pending haddress hpending
    have hne := SocialRecovery.vault_ne_config hva.data hdata
    have hprocess := h.cancels hva hnonce hflag howner hdata hp
    -- the state afterwards is explicit: two accounts have new data
    refine ⟨_, a.setNonce (a.fields.nonce + 1), c, c.clearPending, hprocess, ?_,
      a.fields_setNonce _, hc, ?_, c.fields_clearPending, ?_, ?_, ?_, rfl⟩
    · refine ⟨by simpa using hva.owner, by simp, ?_⟩
      rw [a.fields_setNonce]
      exact hva.version
    · refine recoveryConfigOf_eq_some.mpr ⟨config.key, bump, haddress, by simpa using howner, ?_⟩
      simp [hne.symm]
    · rw [guardianshipOf_clearConfig (m := m.begin) h.address hne howner hdata]
      cases guardianshipOf P m.begin vault.key <;> rfl
    · intro k
      simp
    · intro k hvault hconfig
      simp [hvault, hconfig]

section Replay

open Sample

/-- An intent of the first vault at nonce 2, submitted at slot 5. -/
theorem submits_clearProposal (ix : DualKeyInstruction) (i : AuthorizationIntent)
    (s : SignedMessage)
    (hnonce : a.fields.nonce = 2) (howner : a.fields.ownerEd25519 = owner)
    (hpolicy : AuthorizationPolicy.fromU8 a.fields.policy = some .ed25519Only)
    (hinstruction : (clearProposal ix i s 5).instruction = some ix)
    (hpayload : (clearProposal ix i s 5).payload.length = authPayloadLen)
    (hexpiry : 5 ≤ i.expirySlot)
    (hpresents : Presents (clearProposal ix i s 5).payload (.fromIntent i)
      (List.replicate falconSignatureLen 0))
    (hverified : verifyEd25519Precompile (clearProposal ix i s 5)
      (readonlyInfo instructionsSysvarId) owner
      (intentDigest platform ed25519Vault 2 (.fromIntent i)) = .ok ()) :
    Submits platform (clearProposal ix i s 5) ix (writableInfo ed25519Vault)
      (writableInfo recoveryConfig) (readonlyInfo instructionsSysvarId) a (.fromIntent i)
      i.action := by
  have haddress : platform.tryFindProgramAddress (recoveryPdaSeeds ed25519Vault) programId =
      some (recoveryConfig, 255) := by
    decide +kernel
  have hattached := ed25519Attached_iff.mpr hverified
  rw [← howner, ← hnonce] at hattached
  exact
    { instruction := hinstruction, payload := hpayload, accounts := rfl, vaultWritable := rfl
      configWritable := rfl, address := ⟨255, haddress⟩, presents := rfl, unexpired := hexpiry
      signed := ⟨_, _, hpresents, hpolicy, hattached⟩ }

/-- The seeds of a vault are three slices, those of a recovery config two. -/
theorem disjoint_ranges : DisjointRanges platform := by
  intro creator index k bump v bump' hvault hconfig
  obtain ⟨d, hfind, haddress⟩ := Option.map_eq_some_iff.mp hvault
  obtain ⟨d', hfind', haddress'⟩ := Option.map_eq_some_iff.mp hconfig
  have hseeds : d.seeds = pdaSeeds creator (u32ToLe index) := by
    simpa only [decide_eq_true_eq] using List.find?_some hfind
  have hseeds' : d'.seeds = recoveryPdaSeeds v := by
    simpa only [decide_eq_true_eq] using List.find?_some hfind'
  -- the table of derived addresses is finite
  have htable : ∀ d ∈ derived, ∀ d' ∈ derived, d.seeds.length = 3 → d'.seeds.length = 2 →
      d.address ≠ d'.address := by
    decide +kernel
  refine htable d (List.mem_of_find?_eq_some hfind) d' (List.mem_of_find?_eq_some hfind')
    (by rw [hseeds]; rfl) (by rw [hseeds']; rfl) ?_
  exact (Prod.mk.inj haddress).1.trans (Prod.mk.inj haddress').1.symm

/-- While the successor is proposed, the owner can rotate to another key and can cancel. -/
theorem owner_vetoes_proposal :
    ∃ a, VaultAt platform proposed ed25519Vault a ∧
      (∃ m' a', Processor.process platform rotate.accounts rotate.data rotate.enter
          proposed.begin = .ok ((), m') ∧
        VaultAt platform m' ed25519Vault a' ∧ a'.fields.ownerEd25519 = successor) ∧
      ∃ m' a', Processor.process platform cancel.accounts cancel.data cancel.enter
          proposed.begin = .ok ((), m') ∧
        VaultAt platform m' ed25519Vault a' ∧
        a'.fields = { a.fields with nonce := a.fields.nonce + 1 } := by
  have hruntime : ∀ inv ∈ [createEd25519Vault, setConfig, enable, propose],
      inv.PrecompilesAccepted platform := by
    decide +kernel
  have hreach : Reachable (chain platform) proposed := reachable_replayed genesis_init hruntime
  have hrecord : (recordOf platform proposed ed25519Vault).map (fun r =>
      (r.policy, r.recovery, r.owner, r.nonce)) = some (.ed25519Only, true, owner, 2) := by
    decide +kernel
  have hpending : ((guardianshipOf platform proposed ed25519Vault).bind fun g => g.pending) ≠
      none := by
    decide +kernel
  -- the record of the vault is evaluated; the vault behind it is not
  obtain ⟨r, hr, hfields⟩ := Option.map_eq_some_iff.mp hrecord
  obtain ⟨a, policy, hva, hpolicy, rfl⟩ := exists_vaultAt_of_recordOf hr
  simp only [HybridFields.record, Prod.mk.injEq] at hfields
  obtain ⟨rfl, hflag, howner, htwo⟩ := hfields
  have hnonce : a.fields.nonce = 2 := UInt64.toNat_inj.mp htwo
  -- nothing evaluates the machine from here on
  generalize proposed = m at hreach hva hpending ⊢
  have hvault : VaultAt platform m (writableInfo ed25519Vault).key a := hva
  obtain ⟨hrotates, hcancels⟩ := owner_vetoes hreach disjoint_ranges hvault
    (by rw [hnonce]; decide)
  have hrotate := submits_clearProposal .rotateEd25519Key rotateIntent signedRotate hnonce
    howner hpolicy (by decide +kernel) (by decide +kernel) (by decide)
    ⟨by decide +kernel, by decide +kernel⟩ (by decide +kernel)
  have hcancel := submits_clearProposal .cancelSocialRecovery cancelIntent signedCancel hnonce
    howner hpolicy (by decide +kernel) (by decide +kernel) (by decide)
    ⟨by decide +kernel, by decide +kernel⟩ (by decide +kernel)
  refine ⟨a, hva, ?_, ?_⟩
  · obtain ⟨m', a', hprocess, hva', hkey, -⟩ :=
      hrotates successor rotate _ _ _ (by rw [howner]; decide +kernel) hrotate
    exact ⟨m', a', hprocess, hva', hkey⟩
  · obtain ⟨m', a', c, c', hprocess, hva', hkey, -⟩ :=
      hcancels cancel _ _ _ hpending hflag hcancel
    exact ⟨m', a', hprocess, hva', hkey⟩

end Replay

end DualKey
