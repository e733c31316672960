import DualKey.System.Authority

/-!
# Policy changes obey the stricter-of rule

`ChangeRequest` is a well-formed `ChangePolicy`: a payload that decodes to one, the two
accounts, and an initialized vault. `ChangeRequest.checks_iff` says exactly when the
handler accepts a request. The two schemes are represented by their validity bits over the
reconstructed digest, and the requirement of the meet is the conjunction of the current
and the target policy's requirements (`SignatureRequirement.satisfiedBy_meet`).

`policy_change_stricter` assembles the two directions, and adds that on the chain there is
no other way to a different policy or threshold.
-/

namespace DualKey

open Transition

namespace ChangePolicy

/-- The validity bits of the two schemes presented for a vault account over a digest. -/
def presentedValidity (P : Platform) (inv : Invocation) (sysvar : AccountInfo)
    (a : HybridAccount) (digest : Digest) (falconSig : List UInt8) : SignatureValidity where
  ed25519Valid := (verifyEd25519Precompile inv sysvar a.fields.ownerEd25519 digest).isOk
  falconValid := (verifyFalconPrepared P a.fields.preparedFalconPublicKey.toList digest.toList
    falconSig).isOk

/-- A well-formed `ChangePolicy` to the policy byte `newPolicy` and `newThreshold`, for the
initialized vault account `a` with policy `current`. -/
structure ChangeRequest (P : Platform) (inv : Invocation) (m : Machine) (payload : List UInt8)
    (vault sysvar : AccountInfo) (wire : ExecuteIntentWire) (falconSig : List UInt8)
    (a : HybridAccount) (current : AuthorizationPolicy) (newPolicy : UInt8)
    (newThreshold : UInt64) : Prop where
  length : payload.length = authPayloadLen
  presents : Presents payload wire falconSig
  accounts : inv.accounts = [vault, sysvar]
  vaultWritable : vault.isWritable = true
  action : wire.action = .changePolicy newPolicy newThreshold
  owner : m.owner vault.key = P.programId
  data : m.data vault.key = a.data
  version : a.fields.version = accountVersion
  policy : AuthorizationPolicy.fromU8 a.fields.policy = some current

/-- The bits presented with a request satisfy the requirement of `policy` for its action. -/
def Meets (P : Platform) (inv : Invocation) (vault sysvar : AccountInfo)
    (wire : ExecuteIntentWire) (falconSig : List UInt8) (a : HybridAccount)
    (policy : AuthorizationPolicy) (threshold : Option UInt64) : Prop :=
  evaluateRequirement (policy.signatureRequirement wire.action threshold)
    (presentedValidity P inv sysvar a (intentDigest P vault.key a.fields.nonce wire) falconSig) =
      .ok ()

variable {P : Platform} {inv : Invocation} {m m' : Machine} {payload : List UInt8}
  {vault sysvar : AccountInfo} {wire : ExecuteIntentWire} {falconSig : List UInt8}
  {a : HybridAccount} {current target : AuthorizationPolicy} {newPolicy : UInt8}
  {newThreshold : UInt64}

/-- Evaluating a requirement on the bits is satisfying it by the two verifications. -/
theorem meets_iff {policy : AuthorizationPolicy} {threshold : Option UInt64} :
    Meets P inv vault sysvar wire falconSig a policy threshold ↔
      (policy.signatureRequirement wire.action threshold).SatisfiedBy
        (verifyEd25519Precompile inv sysvar a.fields.ownerEd25519
          (intentDigest P vault.key a.fields.nonce wire) = .ok ())
        (FalconValid P a.fields.preparedFalconPublicKey
          (intentDigest P vault.key a.fields.nonce wire).toList falconSig) := by
  have hbit {x : DkRes Unit} : x.isOk = true ↔ x = .ok () := by
    rw [Res.isOk_iff]
    constructor
    · intro h
      obtain ⟨⟨⟩, hx⟩ := h
      exact hx
    · intro h
      exact ⟨(), h⟩
  rw [Meets, evaluateRequirement_eq_ok]
  simp only [presentedValidity, hbit, FalconValid]

theorem Presents.sig_length (hlen : payload.length = authPayloadLen)
    (h : Presents payload wire falconSig) : falconSig.length = falconSignatureLen := by
  rw [← h.sig, List.length_take, List.length_drop, hlen]
  rfl

/-- A successful policy change is a request. -/
theorem Checks.request {auth : Authorization} (hlen : payload.length = authPayloadLen)
    (hpresents : Presents payload wire falconSig)
    (h : Checks P inv m vault sysvar wire falconSig newPolicy newThreshold target a auth) :
    ChangeRequest P inv m payload vault sysvar wire falconSig a auth.policy newPolicy
      newThreshold where
  length := hlen
  presents := hpresents
  accounts := h.accounts
  vaultWritable := h.vaultWritable
  action := h.action
  owner := h.authorized.owner
  data := h.authorized.data
  version := h.authorized.version
  policy := h.authorized.policy

/-- The signatures behind a policy change satisfy both policies. -/
theorem Checks.meets {auth : Authorization}
    (h : Checks P inv m vault sysvar wire falconSig newPolicy newThreshold target a auth) :
    Meets P inv vault sysvar wire falconSig a auth.policy a.fields.threshold ∧
      Meets P inv vault sysvar wire falconSig a target
        (resultingThreshold target newThreshold) := by
  obtain ⟨req, hreq, hsat⟩ := h.authorized.requirement
  rw [h.action] at hreq
  -- what was evaluated is the meet of the two requirements
  obtain ⟨target', htarget, hmeet⟩ := effectiveRequirement_changePolicy.mp hreq
  obtain rfl : target' = target := Option.some.inj (htarget.symm.trans h.parsed)
  rw [← hmeet, h.authorized.digest] at hsat
  obtain ⟨hcurrent, hnew⟩ := SignatureRequirement.satisfiedBy_meet.mp hsat
  rw [meets_iff, meets_iff, h.action]
  exact ⟨hcurrent, hnew⟩

/-- **When a request is accepted.** -/
theorem ChangeRequest.checks_iff
    (h : ChangeRequest P inv m payload vault sysvar wire falconSig a current newPolicy
      newThreshold) :
    (∃ target auth,
        Checks P inv m vault sysvar wire falconSig newPolicy newThreshold target a auth) ↔
      ∃ target, AuthorizationPolicy.fromU8 newPolicy = some target ∧
        ¬ (current = target ∧ a.fields.threshold = resultingThreshold target newThreshold) ∧
        inv.slot ≤ wire.expirySlot ∧ a.fields.nonce.toNat < 2 ^ 64 - 1 ∧
        Meets P inv vault sysvar wire falconSig a current a.fields.threshold ∧
        Meets P inv vault sysvar wire falconSig a target
          (resultingThreshold target newThreshold) := by
  constructor
  · intro hchecks
    obtain ⟨target, auth, hc⟩ := hchecks
    have hcurrent : auth.policy = current :=
      Option.some.inj (hc.authorized.policy.symm.trans h.policy)
    have hnext := hc.authorized.nextNonce
    -- the checked increment leaves room for the next nonce
    have hbound := auth.nextNonce.toNat_lt
    obtain ⟨hmeets, hmeets'⟩ := hc.meets
    rw [hcurrent] at hmeets
    refine ⟨target, hc.parsed, ?_, hc.authorized.unexpired, by omega, hmeets, hmeets'⟩
    rw [← hcurrent]
    exact hc.change
  · intro haccepted
    obtain ⟨target, htarget, hchange, hslot, hnonce, hmeets, hmeets'⟩ := haccepted
    -- conversely the increment does not overflow
    have hnext : a.fields.nonce.toNat + 1 = (a.fields.nonce + 1).toNat := by
      rw [UInt64.toNat_add]
      show a.fields.nonce.toNat + 1 = (a.fields.nonce.toNat + 1) % 2 ^ 64
      omega
    refine ⟨target,
      { digest := intentDigest P vault.key a.fields.nonce wire, policy := current
        accountNonce := a.fields.nonce, nextNonce := a.fields.nonce + 1 }, ?_⟩
    refine
      { accounts := h.accounts, vaultWritable := h.vaultWritable, action := h.action
        parsed := htarget, change := hchange, authorized := ?_ }
    refine
      { sigLen := Presents.sig_length h.length h.presents, unexpired := hslot, owner := h.owner
        data := h.data, version := h.version, policy := h.policy, accountNonce := rfl
        nextNonce := hnext, digest := rfl, requirement := ?_ }
    -- the effective requirement is the meet of the two
    rw [meets_iff, h.action] at hmeets hmeets'
    refine ⟨_, ?_, SignatureRequirement.satisfiedBy_meet.mpr ⟨hmeets, hmeets'⟩⟩
    rw [h.action]
    exact effectiveRequirement_changePolicy.mpr ⟨target, htarget, rfl⟩

/-- A step that changes policy or threshold of a vault is a `ChangePolicy` on it whose
signatures satisfy the policy it replaces. -/
theorem Step.policy_change {l : Label} {v : Pubkey} {a' : HybridAccount} (hwf : WellFormed P m)
    (h : Step P m l m') (hv : VaultAt P m v a) (hv' : VaultAt P m' v a')
    (hchange : a'.fields.policy ≠ a.fields.policy ∨ a'.fields.threshold ≠ a.fields.threshold) :
    ∃ (inv : Invocation) (vault sysvar : AccountInfo) (wire : ExecuteIntentWire)
      (falconSig : List UInt8) (current : AuthorizationPolicy),
      l = .executed inv ∧ inv.call = some (.changePolicy, v) ∧ vault.key = v ∧
        inv.accounts = [vault, sysvar] ∧ Presents inv.payload wire falconSig ∧
        AuthorizationPolicy.fromU8 a.fields.policy = some current ∧
        Meets P inv vault sysvar wire falconSig a current a.fields.threshold := by
  obtain ⟨b', hb', hstep⟩ := h.vaultAt hwf hv
  obtain rfl := hb'.unique hv'
  rcases hstep with ⟨-, rfl⟩ | ⟨op, hop, heffect⟩
  · rcases hchange with hne | hne <;> exact absurd rfl hne
  · -- no other operation changes either
    have hpolicy : ∃ p t, op = .changePolicy p t := by
      by_contra hno
      push Not at hno
      obtain ⟨hp, ht⟩ := VaultOp.onFields_policy (f := a.fields) hno
      rw [heffect.fields] at hchange
      rcases hchange with hne | hne
      · exact hne hp
      · exact hne ht
    obtain ⟨p, t, rfl⟩ := hpolicy
    have hcall := hop.call
    cases hop with
    | @mk inv vault m' hruntime hkey hix hperforms =>
      subst hkey
      cases hperforms with
      | @changePolicy sysvar wire falconSig newPolicy threshold _ b auth hpresents hc =>
        obtain rfl : b = a := HybridAccount.data_injective (hc.authorized.data.symm.trans hv.data)
        exact ⟨inv, vault, sysvar, wire, falconSig, auth.policy, rfl, hcall, rfl, hc.accounts,
          hpresents, hc.authorized.policy, hc.meets.1⟩

/-- **The stricter-of rule.** A successful `ChangePolicy` is a request whose signatures satisfy
the current and the target policy for this action; a request for a change to a known policy,
unexpired and below the last nonce, whose signatures satisfy both, succeeds; and on the chain
a step that changes policy or threshold of a vault is such a `ChangePolicy`, so its signatures
satisfy the policy it replaces. -/
theorem policy_change_stricter (P : Platform) (inv : Invocation) (m : Machine) :
    (∀ (payload : List UInt8) (m' : Machine),
      process P inv.accounts payload inv.enter m = .ok ((), m') →
      ∃ (vault sysvar : AccountInfo) (wire : ExecuteIntentWire) (falconSig : List UInt8)
        (a : HybridAccount) (current target : AuthorizationPolicy) (newPolicy : UInt8)
        (newThreshold : UInt64),
        ChangeRequest P inv m payload vault sysvar wire falconSig a current newPolicy
          newThreshold ∧
        AuthorizationPolicy.fromU8 newPolicy = some target ∧
        Meets P inv vault sysvar wire falconSig a current a.fields.threshold ∧
        Meets P inv vault sysvar wire falconSig a target
          (resultingThreshold target newThreshold)) ∧
    (∀ (payload : List UInt8) (vault sysvar : AccountInfo) (wire : ExecuteIntentWire)
      (falconSig : List UInt8) (a : HybridAccount) (current target : AuthorizationPolicy)
      (newPolicy : UInt8) (newThreshold : UInt64),
      ChangeRequest P inv m payload vault sysvar wire falconSig a current newPolicy
        newThreshold →
      AuthorizationPolicy.fromU8 newPolicy = some target →
      ¬ (current = target ∧ a.fields.threshold = resultingThreshold target newThreshold) →
      inv.slot ≤ wire.expirySlot → a.fields.nonce.toNat < 2 ^ 64 - 1 →
      Meets P inv vault sysvar wire falconSig a current a.fields.threshold →
      Meets P inv vault sysvar wire falconSig a target (resultingThreshold target newThreshold) →
      ∃ m', process P inv.accounts payload inv.enter m = .ok ((), m') ∧
        m'.data vault.key = (changed a
          { digest := intentDigest P vault.key a.fields.nonce wire, policy := current
            accountNonce := a.fields.nonce, nextNonce := a.fields.nonce + 1 }
          target newThreshold).data) ∧
    ∀ (s s' : Machine) (l : Label) (v : Pubkey) (a a' : HybridAccount),
      Reachable (chain P) s → Step P s l s' → VaultAt P s v a → VaultAt P s' v a' →
      a'.fields.policy ≠ a.fields.policy ∨ a'.fields.threshold ≠ a.fields.threshold →
      ∃ (inv : Invocation) (vault sysvar : AccountInfo) (wire : ExecuteIntentWire)
        (falconSig : List UInt8) (current : AuthorizationPolicy),
        l = .executed inv ∧ inv.call = some (.changePolicy, v) ∧ vault.key = v ∧
          inv.accounts = [vault, sysvar] ∧ Presents inv.payload wire falconSig ∧
          AuthorizationPolicy.fromU8 a.fields.policy = some current ∧
          Meets P inv vault sysvar wire falconSig a current a.fields.threshold := by
  refine ⟨?_, ?_, ?_⟩
  · intro payload m' h
    obtain ⟨hlen, wire, falconSig, hpresents, vault, sysvar, newPolicy, newThreshold, target, a,
      auth, hc, -⟩ := process_eq_ok.mp h
    -- the meet of two requirements is satisfied exactly when both are
    exact ⟨vault, sysvar, wire, falconSig, a, auth.policy, target, newPolicy, newThreshold,
      hc.request hlen hpresents, hc.parsed, hc.meets⟩
  · intro payload vault sysvar wire falconSig a current target newPolicy newThreshold hreq htarget
      hchange hslot hnonce hmeets hmeets'
    obtain ⟨target', auth, hc⟩ := hreq.checks_iff.mpr
      ⟨target, htarget, hchange, hslot, hnonce, hmeets, hmeets'⟩
    -- the byte of the request names one policy
    obtain rfl : target' = target := Option.some.inj (hc.parsed.symm.trans htarget)
    refine ⟨_, process_eq_ok.mpr ⟨hreq.length, wire, falconSig, hreq.presents, vault, sysvar,
      newPolicy, newThreshold, target', a, auth, hc, rfl⟩, ?_⟩
    rw [Machine.data_setData, if_pos rfl, changed, changed, eq_add_one hc.authorized.nextNonce]
  · intro s s' l v a a' hreach hstep hv hv' hchange
    -- in a reachable state what the program owns is blank, a vault or a recovery config
    exact Step.policy_change (Reachable.wellFormed hreach) hstep hv hv' hchange

end ChangePolicy

end DualKey
