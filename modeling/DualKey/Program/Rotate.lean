import DualKey.Program.SocialRecovery

/-!
# Key rotation

`RotateEd25519Key` replaces the Ed25519 owner and clears a pending social recovery.
`RotateFalconKey` replaces the Falcon key; the new key must sign the same digest
(proof of possession). Both are authorized under the current policy.
-/

namespace DualKey

variable (P : Platform)

namespace Rotate

/-! ### Handlers -/

def applyEd25519Rotation (hybridAccount : AccountInfo) (newPubkey : Pubkey)
    (auth : Authorization) : Prog Unit :=
  hybridAccount.updateVault fun account => do
    let account := account.setNonce auth.nextNonce
    pure (account.setOwnerEd25519 newPubkey)

def processRotateEd25519 (accounts : List AccountInfo) (payload : List UInt8) : Prog Unit := do
  Exec.failIf (payload.length ≠ authPayloadLen) .malformedInstructionData
  let (hybridAccount, recoveryConfig, instructionsSysvar) ← threeAccounts accounts
  Exec.failIf (hybridAccount.isWritable = false) .invalidAccountData
  let (wireBytes, falconSig) ← splitWireAndFalcon payload
  let wire ← ExecuteIntentWire.decode wireBytes
  let newPubkey ← Exec.okOr wire.action.rotateEd25519Key? .unsupportedAction
  let current ← hybridAccount.tryBorrowData HybridAccount.ownerEd25519FromSlice
  Exec.failIf (newPubkey = current) .invalidAccountData
  let auth ← authorize P hybridAccount instructionsSysvar wire falconSig
  applyEd25519Rotation hybridAccount newPubkey auth
  SocialRecovery.clearPendingAfterEd25519OwnerChange P hybridAccount.key recoveryConfig

/-- Prepare and store the new Falcon key and its hash. -/
def applyFalconRotation (hybridAccount : AccountInfo) (newWirePk : List UInt8)
    (newPubkeyHash : Digest) (auth : Authorization) : Prog Unit := do
  let prepared ← prepareFalconKey P newWirePk
  hybridAccount.updateVault fun account => do
    let account := account.setNonce auth.nextNonce
    let account := account.setFalconPublicKeyHash newPubkeyHash
    pure (account.setPreparedFalconPublicKey prepared)

/-- Payload length of `RotateFalconKey`: fragment, signature, wire key, signature. -/
@[simp] abbrev rotateFalconPayloadLen : ℕ := 2278

/-- Split the payload of `RotateFalconKey` into its four parts. -/
def splitFalconPayload (payload : List UInt8) :
    DkRes (List UInt8 × List UInt8 × List UInt8 × List UInt8) := do
  let (wireBytes, rest) ← Res.okOr (Buffer.splitAtChecked payload executeIntentWireLen)
    .malformedInstructionData
  let (falconAuth, rest) ← Res.okOr (Buffer.splitAtChecked rest falconSignatureLen)
    .malformedInstructionData
  let (newWirePk, falconPop) ← Res.okOr (Buffer.splitAtChecked rest falconWirePubkeyLen)
    .malformedInstructionData
  Res.failIf (falconPop.length ≠ falconSignatureLen) .malformedInstructionData
  pure (wireBytes, falconAuth, newWirePk, falconPop)

def processRotateFalcon (accounts : List AccountInfo) (payload : List UInt8) : Prog Unit := do
  Exec.failIf (payload.length ≠ rotateFalconPayloadLen) .malformedInstructionData
  let (hybridAccount, instructionsSysvar) ← twoAccounts accounts
  Exec.failIf (hybridAccount.isWritable = false) .invalidAccountData
  let (wireBytes, falconAuth, newWirePk, falconPop) ← splitFalconPayload payload
  let wire ← ExecuteIntentWire.decode wireBytes
  let newPubkeyHash ← Exec.okOr wire.action.rotateFalconKey? .unsupportedAction
  let computedHash := P.sha256 newWirePk
  Exec.failIf (computedHash ≠ newPubkeyHash) .digestMismatch
  let currentHash ← hybridAccount.tryBorrowData HybridAccount.falconPublicKeyHashFromSlice
  Exec.failIf (newPubkeyHash = currentHash) .invalidAccountData
  let auth ← authorize P hybridAccount instructionsSysvar wire falconAuth
  -- The new key must sign the digest that was authorized.
  verifyFalconRaw P newWirePk auth.digest.toList falconPop
  applyFalconRotation P hybridAccount newWirePk newPubkeyHash auth

/-! ### What a successful rotation did -/

/-- Everything a successful `RotateEd25519Key` checked. -/
structure Ed25519Checks (inv : InvokeContext) (m : Machine) (vault config sysvar : AccountInfo)
    (wire : ExecuteIntentWire) (falconSig : List UInt8) (newPubkey : Pubkey) (a : HybridAccount)
    (auth : Authorization) : Prop where
  accounts : inv.accounts = [vault, config, sysvar]
  vaultWritable : vault.isWritable = true
  action : wire.action = .rotateEd25519Key newPubkey
  change : newPubkey ≠ a.fields.ownerEd25519
  authorized : Authorized P inv m vault sysvar wire falconSig a auth
  address : ∃ bump, SocialRecovery.IsRecoveryAddress P vault.key config.key bump

/-- The new Falcon wire key and its proof of possession in a `RotateFalconKey` payload. -/
structure PresentsKey (payload newWirePk falconPop : List UInt8) : Prop where
  key : (payload.drop authPayloadLen).take falconWirePubkeyLen = newWirePk
  pop : payload.drop (authPayloadLen + falconWirePubkeyLen) = falconPop

/-- Everything a successful `RotateFalconKey` checked. -/
structure FalconChecks (inv : InvokeContext) (m : Machine) (vault sysvar : AccountInfo)
    (wire : ExecuteIntentWire) (falconSig newWirePk falconPop : List UInt8)
    (prepared : PreparedFalconPubkey) (a : HybridAccount) (auth : Authorization) : Prop where
  accounts : inv.accounts = [vault, sysvar]
  vaultWritable : vault.isWritable = true
  action : wire.action = .rotateFalconKey (P.sha256 newWirePk)
  change : P.sha256 newWirePk ≠ a.fields.falconPublicKeyHash
  authorized : Authorized P inv m vault sysvar wire falconSig a auth
  /-- The proof of possession: the new key signs the authorized digest. -/
  possession : verifyFalconRaw P newWirePk auth.digest.toList falconPop = .ok ()
  prepared : prepareFalconKey P newWirePk = .ok prepared

section Specs

variable {P} {inv : InvokeContext} {m m' : Machine}

/-- **Exactness of `RotateEd25519Key`.** -/
theorem processRotateEd25519_eq_ok {payload : List UInt8} {u : Unit} :
    processRotateEd25519 P inv.accounts payload inv.enter m = .ok (u, m') ↔
      payload.length = authPayloadLen ∧
      ∃ wire falconSig, Presents payload wire falconSig ∧
        ∃ vault config sysvar newPubkey a auth,
          Ed25519Checks P inv m vault config sysvar wire falconSig newPubkey a auth ∧
          SocialRecovery.ClearsPending P (m.setData vault.key
            ((a.setNonce auth.nextNonce).setOwnerEd25519 newPubkey).data) config m' := by
  simp only [processRotateEd25519, Exec.bind_eq_ok, Exec.failIf_eq_ok, Exec.liftM_eq_ok,
    Prod.exists, not_not, threeAccounts_eq_ok, Exec.okOr_eq_ok,
    Action.rotateEd25519Key?_eq_some, AccountInfo.tryBorrowData_eq_ok, authorize_eq_ok,
    SocialRecovery.clearPending_eq_ok, applyEd25519Rotation]
  constructor
  · intro h
    obtain ⟨_, _, ⟨hlen, rfl⟩, vault, config, sysvar, _, ⟨haccounts, rfl⟩, h⟩ := h
    obtain ⟨_, _, ⟨hvault, rfl⟩, wireBytes, falconSig, _, ⟨hsplit, rfl⟩, h⟩ := h
    obtain ⟨wire, _, ⟨hdecode, rfl⟩, newPubkey, _, ⟨haction, rfl⟩, h⟩ := h
    obtain ⟨current, _, ⟨hcurrent, rfl⟩, _, _, ⟨hchange, rfl⟩, h⟩ := h
    obtain ⟨auth, _, ⟨rfl, a, hauth⟩, _, m₁, happly, haddress, hclears⟩ := h
    -- what was authorized is a vault, so the update writes to it
    rw [AccountInfo.updateVault_of_data hauth.data] at happly
    simp only [Res.pure_eq_ok, exists_eq_left'] at happly
    subst happly
    rw [hauth.data, HybridAccount.ownerEd25519FromSlice_data, Except.ok.injEq] at hcurrent
    obtain ⟨-, hpresents⟩ := (splitWireAndFalcon_eq_ok hlen).mp ⟨hsplit, hdecode⟩
    refine ⟨hlen, wire, falconSig, hpresents, vault, config, sysvar, newPubkey, a, auth, ?_,
      hclears⟩
    exact
      { accounts := haccounts, vaultWritable := by simpa using hvault, action := haction
        change := hcurrent ▸ hchange, authorized := hauth, address := haddress }
  · rintro ⟨hlen, wire, falconSig, hpresents, vault, config, sysvar, newPubkey, a, auth, hc,
      hclears⟩
    obtain ⟨hsplit, hdecode⟩ := (splitWireAndFalcon_eq_ok hlen).mpr ⟨rfl, hpresents⟩
    refine ⟨(), m, ⟨hlen, rfl⟩, vault, config, sysvar, m, ⟨hc.accounts, rfl⟩, (), m,
      ⟨by simp [hc.vaultWritable], rfl⟩, _, falconSig, m, ⟨hsplit, rfl⟩, wire, m, ⟨hdecode, rfl⟩,
      newPubkey, m, ⟨hc.action, rfl⟩, a.fields.ownerEd25519, m, ⟨?_, rfl⟩, (), m, ⟨hc.change, rfl⟩,
      auth, m, ⟨rfl, a, hc.authorized⟩, (), _, ?_, hc.address, hclears⟩
    · rw [hc.authorized.data, HybridAccount.ownerEd25519FromSlice_data]
    · rw [AccountInfo.updateVault_of_data hc.authorized.data]
      simp only [Res.pure_eq_ok, exists_eq_left']

/-- The four parts of a payload of the right length. -/
theorem splitFalconPayload_eq_ok {payload wireBytes falconAuth newWirePk falconPop : List UInt8}
    {wire : ExecuteIntentWire} (hlen : payload.length = rotateFalconPayloadLen) :
    (splitFalconPayload payload = .ok (wireBytes, falconAuth, newWirePk, falconPop) ∧
        ExecuteIntentWire.decode wireBytes = .ok wire) ↔
      payload.take executeIntentWireLen = wireBytes ∧ Presents payload wire falconAuth ∧
        PresentsKey payload newWirePk falconPop := by
  simp only [splitFalconPayload, Res.bind_eq_ok, Res.okOr_eq_ok, Prod.exists,
    Buffer.splitAtChecked_eq_some, Res.failIf_eq_ok, Res.pure_eq_ok, Prod.mk.injEq, not_not]
  constructor
  · -- the splits are made one behind the other, so their offsets add up
    rintro ⟨h, hdecode⟩
    obtain ⟨_, _, ⟨-, rfl, rfl⟩, _, _, ⟨-, rfl, rfl⟩, _, _, ⟨-, rfl, rfl⟩, -, -, h⟩ := h
    obtain ⟨rfl, rfl, rfl, rfl⟩ := h
    refine ⟨rfl, ⟨hdecode, rfl⟩, ?_, ?_⟩
    · rw [List.drop_drop]
      rfl
    · rw [List.drop_drop, List.drop_drop]
      rfl
  · rintro ⟨rfl, ⟨hdecode, rfl⟩, rfl, rfl⟩
    refine ⟨⟨_, _, ⟨?_, rfl, rfl⟩, _, _, ⟨?_, rfl, rfl⟩, _, _, ⟨?_, rfl, rfl⟩, (), ?_, rfl, rfl,
      ?_, ?_⟩, hdecode⟩
    · simp [hlen]
    · simp [hlen]
    · simp [hlen]
    · simp [hlen]
    · rw [List.drop_drop]
      rfl
    · rw [List.drop_drop, List.drop_drop]
      rfl

/-- **Exactness of `RotateFalconKey`.** -/
theorem processRotateFalcon_eq_ok {payload : List UInt8} {u : Unit} :
    processRotateFalcon P inv.accounts payload inv.enter m = .ok (u, m') ↔
      payload.length = rotateFalconPayloadLen ∧
      ∃ wire falconSig newWirePk falconPop, Presents payload wire falconSig ∧
        PresentsKey payload newWirePk falconPop ∧
        ∃ vault sysvar prepared a auth,
          FalconChecks P inv m vault sysvar wire falconSig newWirePk falconPop prepared a auth ∧
          m.setData vault.key
            (((a.setNonce auth.nextNonce).setFalconPublicKeyHash
              (P.sha256 newWirePk)).setPreparedFalconPublicKey prepared).data = m' := by
  simp only [processRotateFalcon, Exec.bind_eq_ok, Exec.failIf_eq_ok, Exec.liftM_eq_ok,
    Prod.exists, not_not, twoAccounts_eq_ok, Exec.okOr_eq_ok, Action.rotateFalconKey?_eq_some,
    AccountInfo.tryBorrowData_eq_ok, authorize_eq_ok, applyFalconRotation]
  constructor
  · intro h
    obtain ⟨_, _, ⟨hlen, rfl⟩, vault, sysvar, _, ⟨haccounts, rfl⟩, h⟩ := h
    obtain ⟨_, _, ⟨hvault, rfl⟩, wireBytes, falconSig, newWirePk, falconPop, _, ⟨hsplit, rfl⟩,
      h⟩ := h
    obtain ⟨wire, _, ⟨hdecode, rfl⟩, _, _, ⟨haction, rfl⟩, _, _, ⟨rfl, rfl⟩, h⟩ := h
    obtain ⟨current, _, ⟨hcurrent, rfl⟩, _, _, ⟨hchange, rfl⟩, h⟩ := h
    obtain ⟨auth, _, ⟨rfl, a, hauth⟩, _, _, ⟨hpop, rfl⟩, h⟩ := h
    obtain ⟨prepared, _, ⟨hprepared, rfl⟩, happly⟩ := h
    rw [AccountInfo.updateVault_of_data hauth.data] at happly
    simp only [Res.pure_eq_ok, exists_eq_left'] at happly
    -- the hash read up front is that of the authorized vault
    rw [hauth.data, HybridAccount.falconPublicKeyHashFromSlice_data, Except.ok.injEq] at hcurrent
    obtain ⟨-, hpresents, hkey⟩ := (splitFalconPayload_eq_ok hlen).mp ⟨hsplit, hdecode⟩
    refine ⟨hlen, wire, falconSig, newWirePk, falconPop, hpresents, hkey, vault, sysvar, prepared,
      a, auth, ?_, happly⟩
    exact
      { accounts := haccounts, vaultWritable := by simpa using hvault, action := haction
        change := hcurrent ▸ hchange, authorized := hauth, possession := hpop
        prepared := hprepared }
  · rintro ⟨hlen, wire, falconSig, newWirePk, falconPop, hpresents, hkey, vault, sysvar, prepared,
      a, auth, hc, hpost⟩
    obtain ⟨hsplit, hdecode⟩ := (splitFalconPayload_eq_ok hlen).mpr ⟨rfl, hpresents, hkey⟩
    refine ⟨(), m, ⟨hlen, rfl⟩, vault, sysvar, m, ⟨hc.accounts, rfl⟩, (), m,
      ⟨by simp [hc.vaultWritable], rfl⟩, _, falconSig, newWirePk, falconPop, m, ⟨hsplit, rfl⟩, wire,
      m, ⟨hdecode, rfl⟩, _, m, ⟨hc.action, rfl⟩, (), m, ⟨rfl, rfl⟩, a.fields.falconPublicKeyHash, m,
      ⟨?_, rfl⟩, (), m, ⟨hc.change, rfl⟩, auth, m, ⟨rfl, a, hc.authorized⟩, (), m,
      ⟨hc.possession, rfl⟩, prepared, m, ⟨hc.prepared, rfl⟩, ?_⟩
    · rw [hc.authorized.data, HybridAccount.falconPublicKeyHashFromSlice_data]
    · rw [AccountInfo.updateVault_of_data hc.authorized.data]
      simpa only [Res.pure_eq_ok, exists_eq_left'] using hpost

end Specs

end Rotate

end DualKey
