import DualKey.Program.Auth
import DualKey.Core.Wire

/-!
# Authorization of a signed intent

`authorize` rebuilds the intent from the account and the wire fragment, checks expiry
and nonce, and verifies the schemes the effective requirement demands. It does not
touch the machine.

`Authorized` lists what a successful call has established about an invocation and a
machine. `authorize_eq_ok` says that the call succeeds exactly then, so later
modules reason from the structure and never unfold the handler.
-/

namespace DualKey

variable (P : Platform)

/-- The digest of a preimage; any other length is refused. -/
def digestCanonicalPreimage (preimage : List UInt8) : DkRes Digest := do
  Res.failIf (preimage.length ≠ canonicalPreimageLen) .malformedInstructionData
  pure (P.sha256 preimage)

/-- Rebuild the intent from the vault account and the wire, and digest it. -/
def reconstructAndDigest (accountInfo : AccountInfo) (wire : ExecuteIntentWire) :
    Prog (Digest × IntentContext) := do
  let owner ← accountInfo.owner
  Exec.failIf (owner ≠ P.programId) .invalidAccountData
  let nonce ← accountInfo.tryBorrowData fun data => do
    let version ← HybridAccount.versionFromSlice data
    Res.failIf (version ≠ accountVersion) .unsupportedVersion
    HybridAccount.nonceFromSlice data
  let ctx : IntentContext :=
    { chainDomain := P.chainDomain, programId := P.programId, account := accountInfo.key, nonce }
  let preimage := canonicalPreimage (reconstructIntent ctx wire)
  let digest ← digestCanonicalPreimage P preimage.toList
  pure (digest, ctx)

/-- Result of a successful authorization. -/
structure Authorization where
  digest : Digest
  policy : AuthorizationPolicy
  accountNonce : UInt64
  nextNonce : UInt64

/-- The requirement of an authorization attempt. A recovery rotation needs the recovery
flag and Falcon alone; a policy change needs the stricter of the current and the target
policy; everything else needs the current policy. -/
def effectiveRequirement (current : AuthorizationPolicy) (currentThreshold : Option UInt64)
    (recoveryEnabled : Bool) (action : Action) : DkRes SignatureRequirement :=
  match action with
  | .recoverAccount .rotateEd25519 _ =>
    if recoveryEnabled then pure .falcon else Res.fail .invalidAccountData
  | .changePolicy newPolicy newThreshold => do
    let currentReq := current.signatureRequirement action currentThreshold
    -- the target decides with the threshold it would have
    let target ← Res.okOr (AuthorizationPolicy.fromU8 newPolicy) .invalidAccountData
    Res.failIf (target.isImplemented = false) .policyNotImplemented
    let targetThreshold := if target = .falconAboveThreshold then some newThreshold else none
    let targetReq := target.signatureRequirement action targetThreshold
    pure (currentReq.meet targetReq)
  | _ => pure (current.signatureRequirement action currentThreshold)

/-- Authorize `wire` with `falconSig` against a vault account. -/
def authorize (hybridAccount instructionsSysvar : AccountInfo) (wire : ExecuteIntentWire)
    (falconSig : List UInt8) : Prog Authorization := do
  Exec.failIf (falconSig.length ≠ falconSignatureLen) .malformedInstructionData
  let env ← Exec.ask
  Exec.failIf (wire.expirySlot < env.slot) .intentExpired
  let (digest, ctx) ← reconstructAndDigest P hybridAccount wire
  let (policy, ownerEd25519, prepared, accountNonce, threshold, recoveryEnabled) ←
    hybridAccount.tryBorrowData fun data => do
      let policy ← HybridAccount.policyFromSlice data
      let ownerEd25519 ← HybridAccount.ownerEd25519FromSlice data
      let prepared ← HybridAccount.preparedFalconPublicKeyFromSlice data
      let accountNonce ← HybridAccount.nonceFromSlice data
      let threshold ← HybridAccount.falconRequiredAboveFromSlice data
      let recoveryEnabled ← HybridAccount.recoveryEnabledFromSlice data
      pure (policy, ownerEd25519, prepared, accountNonce, threshold, recoveryEnabled)
  -- the digest was made with the nonce read first; both reads see one account
  Exec.failIf (ctx.nonce ≠ accountNonce) .invalidNonce
  let nextNonce ← Exec.okOr (checkedAdd accountNonce 1) .mathOverflow
  let req ← effectiveRequirement policy threshold recoveryEnabled wire.action
  let sigs ← collectSignatures P env.toInvokeContext req instructionsSysvar ownerEd25519 prepared
    digest falconSig
  evaluateRequirement req sigs
  pure { digest, policy, accountNonce, nextNonce }

/-- Split a payload into the wire fragment and the Falcon signature. -/
def splitWireAndFalcon (payload : List UInt8) : DkRes (List UInt8 × List UInt8) := do
  Res.failIf (payload.length < executeIntentWireLen) .malformedInstructionData
  pure (payload.take executeIntentWireLen, payload.drop executeIntentWireLen)

/-! ### What a successful authorization has established -/

/-- The digest of an intent for the vault at `vault` with the given nonce. -/
def intentDigest (vault : Pubkey) (nonce : UInt64) (wire : ExecuteIntentWire) : Digest :=
  P.sha256 (canonicalPreimage (reconstructIntent
    { chainDomain := P.chainDomain, programId := P.programId, account := vault, nonce }
    wire)).toList

/-- Everything `authorize` has checked, with the vault account `a` it read. -/
structure Authorized (inv : InvokeContext) (m : Machine) (vault sysvar : AccountInfo)
    (wire : ExecuteIntentWire) (falconSig : List UInt8) (a : HybridAccount)
    (auth : Authorization) : Prop where
  sigLen : falconSig.length = falconSignatureLen
  unexpired : inv.slot ≤ wire.expirySlot
  owner : m.owner vault.key = P.programId
  data : m.data vault.key = a.data
  version : a.fields.version = accountVersion
  policy : AuthorizationPolicy.fromU8 a.fields.policy = some auth.policy
  accountNonce : auth.accountNonce = a.fields.nonce
  nextNonce : a.fields.nonce.toNat + 1 = auth.nextNonce.toNat
  digest : auth.digest = intentDigest P vault.key a.fields.nonce wire
  /-- The schemes that verify satisfy the effective requirement. -/
  requirement : ∃ req,
    effectiveRequirement auth.policy a.fields.threshold a.fields.recovery wire.action = .ok req ∧
      req.SatisfiedBy
        (verifyEd25519Precompile inv sysvar a.fields.ownerEd25519 auth.digest = .ok ())
        (FalconValid P a.fields.preparedFalconPublicKey auth.digest.toList falconSig)

/-- The intent and the Falcon signature an instruction payload presents. -/
structure Presents (payload : List UInt8) (wire : ExecuteIntentWire) (falconSig : List UInt8) :
    Prop where
  wire : ExecuteIntentWire.decode (payload.take executeIntentWireLen) = .ok wire
  sig : (payload.drop executeIntentWireLen).take falconSignatureLen = falconSig

/-- Payload length of an instruction that carries a wire fragment and one signature. -/
@[simp] abbrev authPayloadLen : ℕ := 715

section Specs

variable {P} {inv : InvokeContext} {m m' : Machine} {vault sysvar : AccountInfo}
  {wire : ExecuteIntentWire} {falconSig : List UInt8}

theorem digestCanonicalPreimage_eq_ok {v : ByteVec canonicalPreimageLen} {d : Digest} :
    digestCanonicalPreimage P v.toList = .ok d ↔ P.sha256 v.toList = d := by
  have hlen := v.toList_length
  simp [digestCanonicalPreimage, hlen]

/-- The digest comes from a program-owned, initialized vault account. -/
theorem reconstructAndDigest_eq_ok {digest : Digest} {ctx : IntentContext} :
    reconstructAndDigest P vault wire inv.enter m = .ok ((digest, ctx), m') ↔
      m = m' ∧ m.owner vault.key = P.programId ∧
      ∃ a : HybridAccount, m.data vault.key = a.data ∧ a.fields.version = accountVersion ∧
        digest = intentDigest P vault.key a.fields.nonce wire ∧
        ctx = { chainDomain := P.chainDomain, programId := P.programId, account := vault.key,
                nonce := a.fields.nonce } := by
  simp only [reconstructAndDigest, Exec.bind_eq_ok, AccountInfo.owner_eq_ok, Exec.failIf_eq_ok,
    AccountInfo.tryBorrowData_eq_ok, Res.bind_eq_ok, Res.failIf_eq_ok, not_not,
    HybridAccount.versionFromSlice_eq_ok, Exec.liftM_eq_ok, digestCanonicalPreimage_eq_ok,
    Exec.pure_eq_ok, Prod.mk.injEq]
  constructor
  · rintro ⟨_, _, ⟨rfl, rfl⟩, _, _, ⟨howner, rfl⟩, nonce, _,
      ⟨⟨_, ⟨a, ha, rfl⟩, _, hversion, hnonce⟩, rfl⟩, _, _, ⟨rfl, rfl⟩, ⟨rfl, rfl⟩, rfl⟩
    rw [← ha, HybridAccount.nonceFromSlice_data, Except.ok.injEq] at hnonce
    exact ⟨rfl, howner, a, ha.symm, hversion, by rw [hnonce]; rfl, by rw [hnonce]⟩
  · rintro ⟨rfl, howner, a, ha, hversion, rfl, rfl⟩
    refine ⟨_, _, ⟨rfl, rfl⟩, (), _, ⟨howner, rfl⟩, a.fields.nonce, _,
      ⟨⟨_, ⟨a, ha.symm, rfl⟩, (), hversion, ?_⟩, rfl⟩, _, _, ⟨rfl, rfl⟩, ⟨rfl, rfl⟩, rfl⟩
    rw [ha, HybridAccount.nonceFromSlice_data]

/-- **Exactness of authorization.** The call succeeds exactly when all its checks hold, and
it leaves the machine alone. -/
theorem authorize_eq_ok {auth : Authorization} :
    authorize P vault sysvar wire falconSig inv.enter m = .ok (auth, m') ↔
      m = m' ∧ ∃ a, Authorized P inv m vault sysvar wire falconSig a auth := by
  simp only [authorize, Exec.bind_eq_ok, Exec.failIf_eq_ok, Exec.ask_eq_ok, not_not,
    UInt64.not_lt, Prod.exists, reconstructAndDigest_eq_ok, AccountInfo.tryBorrowData_eq_ok,
    Res.bind_eq_ok, Exec.okOr_eq_ok, Exec.liftM_eq_ok, Exec.pure_eq_ok, Res.pure_eq_ok,
    checkedAdd_eq_some, Prod.mk.injEq]
  constructor
  · intro h
    obtain ⟨_, _, ⟨hlen, rfl⟩, _, _, ⟨rfl, rfl⟩, _, _, ⟨hslot, rfl⟩, h⟩ := h
    obtain ⟨digest, ctx, _, ⟨rfl, howner, a, ha, hversion, rfl, rfl⟩, h⟩ := h
    -- the second borrow reads the fields of the vault whose digest was made
    simp only [ha, HybridAccount.policyFromSlice_data, HybridAccount.ownerEd25519FromSlice_data,
      HybridAccount.preparedFalconPublicKeyFromSlice_data, HybridAccount.nonceFromSlice_data,
      HybridAccount.falconRequiredAboveFromSlice_data, HybridAccount.recoveryEnabledFromSlice_data,
      Res.okOr_eq_ok, Except.ok.injEq, exists_eq_left'] at h
    obtain ⟨policy, _, _, _, _, _, _, ⟨⟨_, hpolicy, rfl, rfl, rfl, rfl, rfl, rfl⟩, rfl⟩, h⟩ := h
    obtain ⟨-, _, ⟨-, rfl⟩, next, _, ⟨hnext, rfl⟩, req, _, ⟨hreq, rfl⟩, h⟩ := h
    obtain ⟨sigs, _, ⟨hsigs, rfl⟩, _, _, ⟨heval, rfl⟩, rfl, rfl⟩ := h
    exact ⟨rfl, a,
      { sigLen := hlen, unexpired := hslot, owner := howner, data := ha, version := hversion
        policy := hpolicy, accountNonce := rfl, nextNonce := hnext, digest := rfl
        requirement := ⟨req, hreq, collectSignatures_evaluate.mp ⟨sigs, hsigs, heval⟩⟩ }⟩
  · rintro ⟨rfl, a, h⟩
    obtain ⟨digest, policy, nonce, next⟩ := auth
    obtain ⟨hlen, hslot, howner, ha, hversion, hpolicy, rfl, hnext, rfl, req, hreq, hsat⟩ := h
    -- the requirement is satisfied, so there are validity bits that pass
    obtain ⟨sigs, hsigs, heval⟩ := collectSignatures_evaluate (u := ()).mpr hsat
    refine ⟨(), m, ⟨hlen, rfl⟩, _, m, ⟨rfl, rfl⟩, (), m, ⟨hslot, rfl⟩, _, _, m,
      ⟨rfl, howner, a, ha, hversion, rfl, rfl⟩, policy, _, _, _, _, _, m, ?_, (), m, ⟨rfl, rfl⟩,
      next, m, ⟨hnext, rfl⟩, req, m, ⟨hreq, rfl⟩, sigs, m, ⟨hsigs, rfl⟩, (), m, ⟨heval, rfl⟩,
      rfl, rfl⟩
    simp [ha, hpolicy, Res.okOr]

/-- A payload of one fragment and one signature splits into the two. -/
theorem splitWireAndFalcon_eq_ok {payload wireBytes : List UInt8}
    (hlen : payload.length = authPayloadLen) :
    (splitWireAndFalcon payload = .ok (wireBytes, falconSig) ∧
        ExecuteIntentWire.decode wireBytes = .ok wire) ↔
      payload.take executeIntentWireLen = wireBytes ∧ Presents payload wire falconSig := by
  -- behind the fragment there is one signature and nothing else
  have hdrop : (payload.drop executeIntentWireLen).take falconSignatureLen =
      payload.drop executeIntentWireLen := by
    refine List.take_of_length_le ?_
    rw [List.length_drop, hlen]
    decide
  simp only [splitWireAndFalcon, Res.bind_eq_ok, Res.failIf_eq_ok, Res.pure_eq_ok,
    Prod.mk.injEq, not_lt]
  constructor
  · rintro ⟨⟨-, -, rfl, rfl⟩, hdecode⟩
    exact ⟨rfl, hdecode, hdrop⟩
  · rintro ⟨rfl, hdecode, hsig⟩
    refine ⟨⟨(), ?_, rfl, hdrop.symm.trans hsig⟩, hdecode⟩
    rw [hlen]
    decide

end Specs

end DualKey
