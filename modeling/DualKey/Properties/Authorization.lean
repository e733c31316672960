import DualKey.System.Replay

/-!
# What authorization accepts

`authorize_exact` states the whole of `authorize` as one condition on the bytes of the
account, the clock, the preceding instruction, the intent and the Falcon signature.
`Ed25519Inspected` is the part on the preceding instruction, and `ed25519_introspection_exact`
shows that the inspection tests exactly that. Both are written in the terms of the layouts,
not of the program's readers.
-/

namespace DualKey

open Buffer

/-! ### The preceding instruction -/

/-- A precompile instruction with a single record, whose ranges all lie in the instruction's own
data, with the given key and digest in the key range and the message range. -/
structure Ed25519Inspected (ix : Instruction) (key : Pubkey) (digest : Digest) : Prop where
  program : ix.programId = ed25519ProgramId
  length : 16 ≤ ix.data.length
  count : byteAt ix.data 0 = 1
  padding : byteAt ix.data 1 = 0
  signatureIx : u16At ix.data 4 = 0xFFFF
  publicKeyIx : u16At ix.data 8 = 0xFFFF
  messageIx : u16At ix.data 14 = 0xFFFF
  messageSize : (u16At ix.data 12).toNat = 32
  keyInside : (u16At ix.data 6).toNat + 32 ≤ ix.data.length
  signatureInside : (u16At ix.data 2).toNat + 64 ≤ ix.data.length
  messageInside : (u16At ix.data 10).toNat + 32 ≤ ix.data.length
  key : read ix.data (u16At ix.data 6).toNat 32 = key.toList
  message : read ix.data (u16At ix.data 10).toNat 32 = digest.toList

section Introspection

variable {P : Platform} {inv : Invocation} {sysvar : AccountInfo} {key : Pubkey} {digest : Digest}
  {ix : Instruction}

/-- Through the instructions sysvar the inspection tests exactly the preceding instruction. -/
theorem verifyEd25519Precompile_iff (hsysvar : sysvar.key = instructionsSysvarId) :
    verifyEd25519Precompile inv sysvar key digest = .ok () ↔
      ∃ ix, inv.predecessor = some ix ∧ Ed25519Inspected ix key digest := by
  rw [verifyEd25519Precompile_eq_ok]
  simp only [readRange_eq_some]
  constructor
  · rintro ⟨-, ix, hix, hprogram, hlen, hcount, hpad, hsigIx, hkeyIx, hmsgIx, hsize,
      ⟨hkeyIn, hkey⟩, ⟨_, hsigIn, -⟩, hmsgIn, hmsg⟩
    exact ⟨ix, hix, hprogram, hlen, hcount, hpad, hsigIx, hkeyIx, hmsgIx, hsize, hkeyIn, hsigIn,
      hmsgIn, hkey, hmsg⟩
  · rintro ⟨ix, hix, h⟩
    exact ⟨hsysvar, ix, hix, h.program, h.length, h.count, h.padding, h.signatureIx,
      h.publicKeyIx, h.messageIx, h.messageSize, ⟨h.keyInside, h.key⟩,
      ⟨_, h.signatureInside, rfl⟩, h.messageInside, h.message⟩

/-- The runtime's record and the program's are the same bytes, so what the precompile verified
is a signature for the expected key over the expected digest. -/
theorem Ed25519Inspected.signed (h : Ed25519Inspected ix key digest)
    (haccepts : PrecompileAccepts P inv.instructions ix.data) :
    ∃ signature : ByteVec 64,
      read ix.data (u16At ix.data 2).toNat 64 = signature.toList ∧
        P.ed25519Verify key digest.toList signature = true := by
  have hpos : 0 < (byteAt ix.data 0).toNat := by
    rw [h.count]
    decide
  obtain ⟨key', message', hcertifies⟩ := haccepts.2 0 hpos
  -- the runtime reads the record at the program's offsets, in the same data
  obtain ⟨hkey, hmessage, signature, hsignature, hverify⟩ :=
    hcertifies.own h.publicKeyIx h.messageIx h.signatureIx h.messageSize
  obtain rfl : key' = key := Subtype.ext ((readRange_eq_some.mp hkey).2.symm.trans h.key)
  obtain rfl : message' = digest.toList := (readRange_eq_some.mp hmessage).2.symm.trans h.message
  exact ⟨signature, (readRange_eq_some.mp hsignature).2, hverify⟩

/-- **Precompile introspection is exact and sound.** For every preceding instruction the
inspection succeeds exactly when the instruction is a precompile instruction with one
self-contained record for the expected key and digest. If the runtime has run the precompile on
it, then its data contain a signature that is valid for that key over that digest, wherever the
ranges lie. -/
theorem ed25519_introspection_exact (P : Platform) (inv : Invocation) (sysvar : AccountInfo)
    (key : Pubkey) (digest : Digest) (ix : Instruction)
    (hsysvar : sysvar.key = instructionsSysvarId) (hix : inv.predecessor = some ix) :
    (verifyEd25519Precompile inv sysvar key digest = .ok () ↔ Ed25519Inspected ix key digest) ∧
    ((ix.programId = ed25519ProgramId → PrecompileAccepts P inv.instructions ix.data) →
      verifyEd25519Precompile inv sysvar key digest = .ok () →
      ∃ (off : ℕ) (signature : ByteVec 64), off + 64 ≤ ix.data.length ∧
        read ix.data off 64 = signature.toList ∧
        P.ed25519Verify key digest.toList signature = true) := by
  have hexact : verifyEd25519Precompile inv sysvar key digest = .ok () ↔
      Ed25519Inspected ix key digest := by
    rw [verifyEd25519Precompile_iff hsysvar, hix]
    simp only [Option.some.injEq, exists_eq_left']
  refine ⟨hexact, fun hruntime hok => ?_⟩
  have h := hexact.mp hok
  obtain ⟨signature, hsignature, hverify⟩ := h.signed (hruntime h.program)
  exact ⟨_, signature, h.signatureInside, hsignature, hverify⟩

/-- The preceding instruction of a token transfer of the sample deployment. -/
theorem ed25519_introspection_exact_sample :
    Ed25519Inspected (Sample.precompileInstruction Sample.signedTokenTransfer) Sample.owner
        Sample.signedTokenTransfer.digest ∧
      ∃ (off : ℕ) (signature : ByteVec 64),
        off + 64 ≤ (Sample.precompileInstruction Sample.signedTokenTransfer).data.length ∧
        read (Sample.precompileInstruction Sample.signedTokenTransfer).data off 64 =
          signature.toList ∧
        Sample.ed25519Verify Sample.owner Sample.signedTokenTransfer.digest.toList signature =
          true := by
  have hok : verifyEd25519Precompile (Sample.spendToken Sample.firstSourceA Sample.mintA)
      (Sample.readonlyInfo instructionsSysvarId) Sample.owner
      Sample.signedTokenTransfer.digest = .ok () := by
    decide +kernel
  obtain ⟨hexact, hsound⟩ := ed25519_introspection_exact Sample.platform
    (Sample.spendToken Sample.firstSourceA Sample.mintA)
    (Sample.readonlyInfo instructionsSysvarId) Sample.owner Sample.signedTokenTransfer.digest
    (Sample.precompileInstruction Sample.signedTokenTransfer) rfl rfl
  exact ⟨hexact.mp hok, hsound (by decide +kernel) hok⟩

end Introspection

/-! ### Requirements -/

/-- Whether the valid schemes are enough for an action under a policy byte. -/
def PolicyMet (policy : UInt8) (threshold : UInt64) (action : Action) (ed25519 falcon : Prop) :
    Prop :=
  match policy with
  | 0 => ed25519
  | 1 => falcon
  | 2 => ed25519 ∧ falcon
  | 3 => ed25519 ∨ falcon
  | 4 =>
    match action with
    | .transferSol .. | .transferSpl .. => ed25519
    | _ => falcon
  | 5 =>
    match action with
    | .transferSol _ amount | .transferSpl _ amount =>
      if threshold < amount then falcon else ed25519
    | _ => falcon
  | _ => False

/-- Whether the valid schemes are enough for an action under the current policy byte: the
recovery rotation needs Falcon alone, a policy change what both policies ask for. -/
def SignaturesMeet (policy : UInt8) (threshold : UInt64) (action : Action)
    (ed25519 falcon : Prop) : Prop :=
  match action with
  | .recoverAccount .rotateEd25519 _ => falcon
  | .changePolicy newPolicy newThreshold =>
    PolicyMet policy threshold action ed25519 falcon ∧
      PolicyMet newPolicy newThreshold action ed25519 falcon
  | _ => PolicyMet policy threshold action ed25519 falcon

section Requirements

variable {b : UInt8} {p : AuthorizationPolicy} {action : Action} {threshold : Option UInt64}
  {e f : Prop}

/-- The policy bytes. -/
theorem AuthorizationPolicy.exists_fromU8 : (∃ p, fromU8 b = some p) ↔ b ≤ 5 := by
  rw [← Option.isSome_iff_exists]
  exact forall_byte (p := fun b => (fromU8 b).isSome ↔ b ≤ 5) (by decide +kernel) b

theorem policyMet_iff (hp : AuthorizationPolicy.fromU8 b = some p) :
    PolicyMet b (threshold.getD 0) action e f ↔
      (p.signatureRequirement action threshold).SatisfiedBy e f := by
  rw [AuthorizationPolicy.eq_asU8 hp]
  unfold AuthorizationPolicy.asU8 PolicyMet AuthorizationPolicy.signatureRequirement
  cases p with
  | falconForPrivileged =>
    cases action <;> simp [Action.isPrivileged, SignatureRequirement.SatisfiedBy]
  | falconAboveThreshold =>
    cases action <;> simp [SignatureRequirement.SatisfiedBy] <;> split <;> simp
  | _ => simp [SignatureRequirement.SatisfiedBy]

/-- The threshold plays no part in a policy change. -/
theorem policyMet_changePolicy {t t' u : UInt64} {c : UInt8} :
    PolicyMet b t (.changePolicy c u) e f ↔ PolicyMet b t' (.changePolicy c u) e f := Iff.rfl

/-- The effective requirement, when there is one, is the condition on the valid schemes. -/
theorem effectiveRequirement_iff {recovery : Bool}
    (hp : AuthorizationPolicy.fromU8 b = some p) :
    (∃ req, effectiveRequirement p threshold recovery action = .ok req ∧ req.SatisfiedBy e f) ↔
      (∀ k, action = .recoverAccount .rotateEd25519 k → recovery = true) ∧
      (∀ newPolicy t, action = .changePolicy newPolicy t → newPolicy ≤ 5) ∧
      SignaturesMeet b (threshold.getD 0) action e f := by
  cases action with
  | recoverAccount op k =>
    cases op with
    | rotateEd25519 =>
      -- a rotation by recovery is refused while recovery is off
      cases recovery <;>
        simp [effectiveRequirement, SignaturesMeet, SignatureRequirement.SatisfiedBy]
    | _ =>
      simp [effectiveRequirement, SignaturesMeet, policyMet_iff hp]
  | changePolicy newPolicy t =>
    simp only [effectiveRequirement, Res.bind_eq_ok, Res.okOr_eq_ok, Res.failIf_eq_ok,
      AuthorizationPolicy.isImplemented_eq_true, Res.pure_eq_ok, SignaturesMeet]
    constructor
    · rintro ⟨_, ⟨target, htarget, -, -, rfl⟩, hsat⟩
      -- the stricter of the two is satisfied exactly when both are
      obtain ⟨hcurrent, htgt⟩ := SignatureRequirement.satisfiedBy_meet.mp hsat
      refine ⟨?_, ?_, (policyMet_iff hp).mpr hcurrent, ?_⟩
      · intro k hk
        cases hk
      · rintro _ _ ⟨⟩
        exact AuthorizationPolicy.exists_fromU8.mp ⟨target, htarget⟩
      · exact policyMet_changePolicy.mp ((policyMet_iff htarget).mpr htgt)
    · rintro ⟨-, hle, hcurrent, htgt⟩
      obtain ⟨target, htarget⟩ := AuthorizationPolicy.exists_fromU8.mpr (hle _ _ rfl)
      refine ⟨_, ⟨target, htarget, (), by simp, rfl⟩, SignatureRequirement.satisfiedBy_meet.mpr ?_⟩
      exact ⟨(policyMet_iff hp).mp hcurrent,
        (policyMet_iff htarget).mp (policyMet_changePolicy.mp htgt)⟩
  | _ => simp [effectiveRequirement, SignaturesMeet, policyMet_iff hp]

end Requirements

/-! ### Authorization -/

/-- The intent a wire fragment stands for at a vault with the given data. -/
def vaultIntent (P : Platform) (vault : Pubkey) (data : List UInt8) (wire : ExecuteIntentWire) :
    AuthorizationIntent where
  version := 1
  chainDomain := P.chainDomain
  programId := P.programId
  account := vault
  nonce := u64FromLe (readVec 8 data 72)
  expirySlot := wire.expirySlot
  action := wire.action

/-- The threshold in the data of a vault, zero when its flag is clear. -/
def storedThreshold (data : List UInt8) : UInt64 :=
  if byteAt data 3 &&& flagFalconThresholdSet = 0 then 0 else u64FromLe (readVec 8 data 80)

/-- What makes an intent acceptable to the vault with the given owner program, key and data. -/
structure Acceptable (P : Platform) (inv : Invocation) (owner vault : Pubkey)
    (data : List UInt8) (wire : ExecuteIntentWire) (falconSig : List UInt8) : Prop where
  sigLen : falconSig.length = 666
  unexpired : inv.slot ≤ wire.expirySlot
  owner : owner = P.programId
  length : data.length = 1120
  version : byteAt data 0 = 1
  policy : byteAt data 2 ≤ 5
  nonce : (u64FromLe (readVec 8 data 72)).toNat < 2 ^ 64 - 1
  /-- A recovery rotation needs the recovery flag. -/
  recovery : ∀ k, wire.action = .recoverAccount .rotateEd25519 k →
    byteAt data 3 &&& flagRecoveryEnabled ≠ 0
  /-- A policy change names a policy. -/
  target : ∀ newPolicy t, wire.action = .changePolicy newPolicy t → newPolicy ≤ 5
  /-- The schemes that are valid for the stored keys over the digest are enough. -/
  signatures :
    let digest := P.sha256 (canonicalPreimage (vaultIntent P vault data wire)).toList
    SignaturesMeet (byteAt data 2) (storedThreshold data) wire.action
      (∃ ix, inv.predecessor = some ix ∧ Ed25519Inspected ix (readVec 32 data 8) digest)
      (FalconValid P (readVec preparedFalconPubkeyLen data 96) digest.toList falconSig)

section Exactness

variable {P : Platform} {inv : Invocation} {m : Machine} {vault sysvar : AccountInfo}
  {wire : ExecuteIntentWire} {falconSig : List UInt8}

theorem getD_threshold (a : HybridAccount) :
    a.fields.threshold.getD 0 = storedThreshold a.data := by
  show Option.getD (if a.fields.flags &&& flagFalconThresholdSet = 0 then none
    else some a.fields.falconRequiredAbove) 0 = storedThreshold a.data
  unfold storedThreshold
  split
  · next hclear => exact (if_pos hclear).symm
  · next hset => exact (if_neg hset).symm

theorem recovery_eq_true (a : HybridAccount) :
    a.fields.recovery = true ↔ byteAt a.data 3 &&& flagRecoveryEnabled ≠ 0 := decide_eq_true_iff

/-- The requirement that was evaluated is the condition on the bytes. -/
theorem requirement_iff (hsysvar : sysvar.key = instructionsSysvarId) {a : HybridAccount}
    {p : AuthorizationPolicy} {digest : Digest}
    (hp : AuthorizationPolicy.fromU8 a.fields.policy = some p) :
    (∃ req, effectiveRequirement p a.fields.threshold a.fields.recovery wire.action = .ok req ∧
      req.SatisfiedBy
        (verifyEd25519Precompile inv sysvar a.fields.ownerEd25519 digest = .ok ())
        (FalconValid P a.fields.preparedFalconPublicKey digest.toList falconSig)) ↔
    (∀ k, wire.action = .recoverAccount .rotateEd25519 k →
      byteAt a.data 3 &&& flagRecoveryEnabled ≠ 0) ∧
    (∀ newPolicy t, wire.action = .changePolicy newPolicy t → newPolicy ≤ 5) ∧
    SignaturesMeet (byteAt a.data 2) (storedThreshold a.data) wire.action
      (∃ ix, inv.predecessor = some ix ∧ Ed25519Inspected ix (readVec 32 a.data 8) digest)
      (FalconValid P (readVec preparedFalconPubkeyLen a.data 96) digest.toList falconSig) := by
  rw [effectiveRequirement_iff hp, getD_threshold]
  simp only [verifyEd25519Precompile_iff hsysvar, recovery_eq_true]
  rfl

/-- **Exactness of authorization.** For every account and every preceding instruction, read
through the instructions sysvar, `authorize` returns a value exactly when the intent is
acceptable. -/
theorem authorize_exact (hsysvar : sysvar.key = instructionsSysvarId) :
    (∃ auth m', authorize P vault sysvar wire falconSig inv.enter m = .ok (auth, m')) ↔
      Acceptable P inv (m.owner vault.key) vault.key (m.data vault.key) wire falconSig := by
  simp only [authorize_eq_ok]
  constructor
  · rintro ⟨auth, _, rfl, a, h⟩
    have hrequirement := h.requirement
    rw [h.digest, requirement_iff hsysvar h.policy] at hrequirement
    obtain ⟨hrecovery, htarget, hsignatures⟩ := hrequirement
    rw [h.data]
    exact
      { sigLen := h.sigLen
        unexpired := h.unexpired
        owner := h.owner
        length := a.length_eq
        version := h.version
        policy := AuthorizationPolicy.exists_fromU8.mp ⟨_, h.policy⟩
        nonce := by
          have hnext := h.nextNonce
          have hlt := auth.nextNonce.toNat_lt
          change a.fields.nonce.toNat < 2 ^ 64 - 1
          omega
        recovery := hrecovery
        target := htarget
        signatures := hsignatures }
  · intro h
    obtain ⟨a, ha⟩ : ∃ a : HybridAccount, m.data vault.key = a.data :=
      ⟨⟨⟨m.data vault.key, h.length⟩⟩, rfl⟩
    rw [ha] at h
    obtain ⟨p, hp⟩ := AuthorizationPolicy.exists_fromU8.mpr h.policy
    -- the nonce is not the last one, so there is a next
    have hnonce : a.fields.nonce.toNat + 1 = (a.fields.nonce + 1).toNat := by
      have hlt : a.fields.nonce.toNat < 2 ^ 64 - 1 := h.nonce
      rw [UInt64.toNat_add]
      change _ = (a.fields.nonce.toNat + 1) % 2 ^ 64
      omega
    refine ⟨{ digest := intentDigest P vault.key a.fields.nonce wire, policy := p,
              accountNonce := a.fields.nonce, nextNonce := a.fields.nonce + 1 }, m, rfl, a, ?_⟩
    exact
      { sigLen := h.sigLen
        unexpired := h.unexpired
        owner := h.owner
        data := ha
        version := h.version
        policy := hp
        accountNonce := rfl
        nextNonce := hnonce
        digest := rfl
        requirement := (requirement_iff hsysvar hp).mpr ⟨h.recovery, h.target, h.signatures⟩ }

/-- The intent of a token transfer of the sample deployment. -/
theorem authorize_exact_sample :
    Acceptable Sample.platform (Sample.spendToken Sample.firstSourceA Sample.mintA)
      Sample.programId Sample.ed25519Vault (Sample.ed25519Created.data Sample.ed25519Vault)
      (.fromIntent Sample.tokenIntent) (List.replicate 666 0) := by
  have hok : (authorize Sample.platform (Sample.writableInfo Sample.ed25519Vault)
      (Sample.readonlyInfo instructionsSysvarId) (.fromIntent Sample.tokenIntent)
      (List.replicate 666 0) (Sample.spendToken Sample.firstSourceA Sample.mintA).enter
      Sample.ed25519Created).isOk = true := by
    decide +kernel
  have howner : Sample.ed25519Created.owner Sample.ed25519Vault = Sample.programId := by
    decide +kernel
  obtain ⟨⟨auth, m'⟩, hret⟩ := Res.isOk_iff.mp hok
  have h := (authorize_exact rfl).mp ⟨auth, m', hret⟩
  rw [← howner]
  exact h

end Exactness

end DualKey
