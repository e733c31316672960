import DualKey.Program.SocialRecovery

/-!
# `RecoverAccount`

Set or clear the recovery flag under the current policy, or, while the flag is set,
replace the Ed25519 owner with Falcon alone. The rotation clears a pending social
recovery.
-/

namespace DualKey

variable (P : Platform)

namespace Recover

/-! ### The handler -/

/-- Consume the nonce and apply the operation; setting a set flag and clearing a clear
one are refused. -/
def applyRecovery (hybridAccount : AccountInfo) (op : RecoveryOp) (newEd25519 : Pubkey)
    (auth : Authorization) : Prog Unit :=
  hybridAccount.updateVault fun account => do
    let account := account.setNonce auth.nextNonce
    match op with
    | .enable => do
      Res.failIf (account.recoveryEnabled = true) .invalidAccountData
      pure (account.setRecoveryEnabled true)
    | .disable => do
      Res.failIf (account.recoveryEnabled = false) .invalidAccountData
      pure (account.setRecoveryEnabled false)
    | .rotateEd25519 => pure (account.setOwnerEd25519 newEd25519)

/-- The branch of `enable` and `disable`. -/
def processFlag (accounts : List AccountInfo) (wire : ExecuteIntentWire)
    (falconSig : List UInt8) (op : RecoveryOp) (newEd25519 : Pubkey) : Prog Unit := do
  let (hybridAccount, instructionsSysvar) ← twoAccounts accounts
  Exec.failIf (hybridAccount.isWritable = false) .invalidAccountData
  Exec.failIf (newEd25519 ≠ ByteVec.zero 32) .invalidAccountData
  let auth ← authorize P hybridAccount instructionsSysvar wire falconSig
  applyRecovery hybridAccount op newEd25519 auth

/-- The branch of `rotateEd25519`. -/
def processRotate (accounts : List AccountInfo) (wire : ExecuteIntentWire)
    (falconSig : List UInt8) (op : RecoveryOp) (newEd25519 : Pubkey) : Prog Unit := do
  let (hybridAccount, recoveryConfig, instructionsSysvar) ← threeAccounts accounts
  Exec.failIf (hybridAccount.isWritable = false) .invalidAccountData
  let current ← hybridAccount.tryBorrowData HybridAccount.ownerEd25519FromSlice
  Exec.failIf (newEd25519 = current ∨ newEd25519 = ByteVec.zero 32) .invalidAccountData
  let auth ← authorize P hybridAccount instructionsSysvar wire falconSig
  applyRecovery hybridAccount op newEd25519 auth
  SocialRecovery.clearPendingAfterEd25519OwnerChange P hybridAccount.key recoveryConfig

def process (accounts : List AccountInfo) (payload : List UInt8) : Prog Unit := do
  Exec.failIf (payload.length ≠ authPayloadLen) .malformedInstructionData
  let (wireBytes, falconSig) ← splitWireAndFalcon payload
  let wire ← ExecuteIntentWire.decode wireBytes
  let (op, newEd25519) ← Exec.okOr wire.action.recoverAccount? .unsupportedAction
  match op with
  | .enable | .disable => processFlag P accounts wire falconSig op newEd25519
  | .rotateEd25519 => processRotate P accounts wire falconSig op newEd25519

/-! ### What a successful `RecoverAccount` did -/

/-- Everything a successful change of the recovery flag checked. -/
structure FlagChecks (inv : InvokeContext) (m : Machine) (vault sysvar : AccountInfo)
    (wire : ExecuteIntentWire) (falconSig : List UInt8) (enabled : Bool) (a : HybridAccount)
    (auth : Authorization) : Prop where
  accounts : inv.accounts = [vault, sysvar]
  vaultWritable : vault.isWritable = true
  action : wire.action =
    .recoverAccount (if enabled then .enable else .disable) (ByteVec.zero 32)
  authorized : Authorized P inv m vault sysvar wire falconSig a auth
  change : a.fields.recovery = !enabled

/-- Everything a successful recovery rotation checked. -/
structure RotateChecks (inv : InvokeContext) (m : Machine) (vault config sysvar : AccountInfo)
    (wire : ExecuteIntentWire) (falconSig : List UInt8) (newEd25519 : Pubkey) (a : HybridAccount)
    (auth : Authorization) : Prop where
  accounts : inv.accounts = [vault, config, sysvar]
  vaultWritable : vault.isWritable = true
  action : wire.action = .recoverAccount .rotateEd25519 newEd25519
  change : newEd25519 ≠ a.fields.ownerEd25519
  nonzero : newEd25519 ≠ ByteVec.zero 32
  authorized : Authorized P inv m vault sysvar wire falconSig a auth
  address : ∃ bump, SocialRecovery.IsRecoveryAddress P vault.key config.key bump

section Specs

variable {P} {inv : InvokeContext} {m m' : Machine}

/-- The flag changes to what it was not. -/
theorem applyRecovery_flag {vault : AccountInfo} {enabled : Bool} {key : Pubkey}
    {auth : Authorization} {a : HybridAccount} {u : Unit} (ha : m.data vault.key = a.data) :
    applyRecovery vault (if enabled then .enable else .disable) key auth inv.enter m = .ok (u, m') ↔
      a.fields.recovery = !enabled ∧
        m.setData vault.key ((a.setNonce auth.nextNonce).setRecoveryEnabled enabled).data = m' := by
  -- the nonce is written first, and does not show in the flag
  have hflag : (a.setNonce auth.nextNonce).recoveryEnabled = a.fields.recovery := by
    rw [HybridAccount.recoveryEnabled_eq]
    exact HybridFields.recovery_congr (by rw [HybridAccount.fields_setNonce])
  rw [applyRecovery, AccountInfo.updateVault_of_data ha]
  cases enabled with
  | true =>
    simp only [if_true, Res.bind_eq_ok, Res.failIf_eq_ok, Res.pure_eq_ok, hflag, Bool.not_true,
      Bool.not_eq_true]
    constructor
    · rintro ⟨_, ⟨-, hset, rfl⟩, hpost⟩
      exact ⟨hset, hpost⟩
    · rintro ⟨hset, hpost⟩
      exact ⟨_, ⟨(), hset, rfl⟩, hpost⟩
  | false =>
    simp only [Bool.false_eq_true, if_false, Res.bind_eq_ok, Res.failIf_eq_ok, Res.pure_eq_ok,
      hflag, Bool.not_false, Bool.not_eq_false]
    constructor
    · rintro ⟨_, ⟨-, hset, rfl⟩, hpost⟩
      exact ⟨hset, hpost⟩
    · rintro ⟨hset, hpost⟩
      exact ⟨_, ⟨(), hset, rfl⟩, hpost⟩

theorem processFlag_eq_ok (enabled : Bool) {wire : ExecuteIntentWire} {falconSig : List UInt8}
    {key : Pubkey} {u : Unit}
    (haction : wire.action = .recoverAccount (if enabled then .enable else .disable) key) :
    processFlag P inv.accounts wire falconSig (if enabled then .enable else .disable) key inv.enter
        m = .ok (u, m') ↔
      ∃ vault sysvar a auth, FlagChecks P inv m vault sysvar wire falconSig enabled a auth ∧
        m.setData vault.key ((a.setNonce auth.nextNonce).setRecoveryEnabled enabled).data = m' := by
  simp only [processFlag, Exec.bind_eq_ok, Exec.failIf_eq_ok, Exec.liftM_eq_ok, Prod.exists,
    not_not, twoAccounts_eq_ok, authorize_eq_ok]
  constructor
  · intro h
    obtain ⟨vault, sysvar, _, ⟨haccounts, rfl⟩, _, _, ⟨hvault, rfl⟩, h⟩ := h
    obtain ⟨_, _, ⟨rfl, rfl⟩, auth, _, ⟨rfl, a, hauth⟩, h⟩ := h
    obtain ⟨hchange, hpost⟩ := (applyRecovery_flag hauth.data).mp h
    refine ⟨vault, sysvar, a, auth, ?_, hpost⟩
    exact
      { accounts := haccounts, vaultWritable := by simpa using hvault, action := haction
        authorized := hauth, change := hchange }
  · rintro ⟨vault, sysvar, a, auth, hc, hpost⟩
    -- the checks are about a request without a key, so it is the one presented
    have hkey : key = ByteVec.zero 32 := by
      have := haction.symm.trans hc.action
      rw [Action.recoverAccount.injEq] at this
      exact this.2
    exact ⟨vault, sysvar, m, ⟨hc.accounts, rfl⟩, (), m, ⟨by simp [hc.vaultWritable], rfl⟩, (), m,
      ⟨hkey, rfl⟩, auth, m, ⟨rfl, a, hc.authorized⟩,
      (applyRecovery_flag hc.authorized.data).mpr ⟨hc.change, hpost⟩⟩

theorem processRotate_eq_ok {wire : ExecuteIntentWire} {falconSig : List UInt8} {key : Pubkey}
    {u : Unit} (haction : wire.action = .recoverAccount .rotateEd25519 key) :
    processRotate P inv.accounts wire falconSig .rotateEd25519 key inv.enter m = .ok (u, m') ↔
      ∃ vault config sysvar a auth,
        RotateChecks P inv m vault config sysvar wire falconSig key a auth ∧
        SocialRecovery.ClearsPending P (m.setData vault.key
          ((a.setNonce auth.nextNonce).setOwnerEd25519 key).data) config m' := by
  simp only [processRotate, Exec.bind_eq_ok, Exec.failIf_eq_ok, Exec.liftM_eq_ok, Prod.exists,
    not_or, threeAccounts_eq_ok, AccountInfo.tryBorrowData_eq_ok, authorize_eq_ok,
    SocialRecovery.clearPending_eq_ok, applyRecovery]
  constructor
  · intro h
    obtain ⟨vault, config, sysvar, _, ⟨haccounts, rfl⟩, _, _, ⟨hvault, rfl⟩, h⟩ := h
    obtain ⟨current, _, ⟨hcurrent, rfl⟩, _, _, ⟨⟨hchange, hnonzero⟩, rfl⟩, h⟩ := h
    obtain ⟨auth, _, ⟨rfl, a, hauth⟩, _, m₁, happly, haddress, hclears⟩ := h
    rw [AccountInfo.updateVault_of_data hauth.data] at happly
    simp only [Res.pure_eq_ok, exists_eq_left'] at happly
    subst happly
    -- the owner read up front is that of the authorized vault
    rw [hauth.data, HybridAccount.ownerEd25519FromSlice_data, Except.ok.injEq] at hcurrent
    refine ⟨vault, config, sysvar, a, auth, ?_, hclears⟩
    exact
      { accounts := haccounts, vaultWritable := by simpa using hvault, action := haction
        change := hcurrent ▸ hchange, nonzero := hnonzero, authorized := hauth
        address := haddress }
  · rintro ⟨vault, config, sysvar, a, auth, hc, hclears⟩
    refine ⟨vault, config, sysvar, m, ⟨hc.accounts, rfl⟩, (), m, ⟨by simp [hc.vaultWritable], rfl⟩,
      a.fields.ownerEd25519, m, ⟨?_, rfl⟩, (), m, ⟨⟨hc.change, hc.nonzero⟩, rfl⟩, auth, m,
      ⟨rfl, a, hc.authorized⟩, (), _, ?_, hc.address, hclears⟩
    · rw [hc.authorized.data, HybridAccount.ownerEd25519FromSlice_data]
    · rw [AccountInfo.updateVault_of_data hc.authorized.data]
      simp only [Res.pure_eq_ok, exists_eq_left']

/-- **Exactness of `RecoverAccount`.** -/
theorem process_eq_ok {payload : List UInt8} {u : Unit} :
    process P inv.accounts payload inv.enter m = .ok (u, m') ↔
      payload.length = authPayloadLen ∧
      ∃ wire falconSig, Presents payload wire falconSig ∧
        ((∃ enabled vault sysvar a auth,
          FlagChecks P inv m vault sysvar wire falconSig enabled a auth ∧
          m.setData vault.key ((a.setNonce auth.nextNonce).setRecoveryEnabled enabled).data = m') ∨
        (∃ key vault config sysvar a auth,
          RotateChecks P inv m vault config sysvar wire falconSig key a auth ∧
          SocialRecovery.ClearsPending P (m.setData vault.key
            ((a.setNonce auth.nextNonce).setOwnerEd25519 key).data) config m')) := by
  simp only [process, Exec.bind_eq_ok, Exec.failIf_eq_ok, Exec.liftM_eq_ok, Prod.exists,
    not_not, Exec.okOr_eq_ok, Action.recoverAccount?_eq_some]
  constructor
  · intro h
    obtain ⟨_, _, ⟨hlen, rfl⟩, wireBytes, falconSig, _, ⟨hsplit, rfl⟩, wire, _, ⟨hdecode, rfl⟩,
      h⟩ := h
    obtain ⟨op, key, _, ⟨haction, rfl⟩, h⟩ := h
    obtain ⟨-, hpresents⟩ := (splitWireAndFalcon_eq_ok hlen).mp ⟨hsplit, hdecode⟩
    refine ⟨hlen, wire, falconSig, hpresents, ?_⟩
    -- two branches change the flag, the third the key
    cases op with
    | enable => exact Or.inl ⟨true, (processFlag_eq_ok true haction).mp h⟩
    | disable => exact Or.inl ⟨false, (processFlag_eq_ok false haction).mp h⟩
    | rotateEd25519 => exact Or.inr ⟨key, (processRotate_eq_ok haction).mp h⟩
  · rintro ⟨hlen, wire, falconSig, hpresents, h⟩
    obtain ⟨hsplit, hdecode⟩ := (splitWireAndFalcon_eq_ok hlen).mpr ⟨rfl, hpresents⟩
    refine ⟨(), m, ⟨hlen, rfl⟩, _, falconSig, m, ⟨hsplit, rfl⟩, wire, m, ⟨hdecode, rfl⟩, ?_⟩
    rcases h with ⟨enabled, h⟩ | ⟨key, h⟩
    · obtain ⟨vault, sysvar, a, auth, hc, hpost⟩ := h
      refine ⟨_, _, m, ⟨hc.action, rfl⟩, ?_⟩
      cases enabled with
      | true =>
        exact (processFlag_eq_ok true hc.action).mpr
          ⟨vault, sysvar, a, auth, hc, hpost⟩
      | false =>
        exact (processFlag_eq_ok false hc.action).mpr
          ⟨vault, sysvar, a, auth, hc, hpost⟩
    · obtain ⟨vault, config, sysvar, a, auth, hc, hclears⟩ := h
      exact ⟨_, _, m, ⟨hc.action, rfl⟩,
        (processRotate_eq_ok hc.action).mpr ⟨vault, config, sysvar, a, auth, hc, hclears⟩⟩

end Specs

end Recover

end DualKey
