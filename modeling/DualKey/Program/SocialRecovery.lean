import DualKey.Program.Authorize
import DualKey.Program.Initialize

/-!
# Social recovery

The owner of a vault installs a guardian and a delay (`SetRecoveryConfig`). While the
vault's recovery flag is set, the guardian can propose a new Ed25519 owner
(`InitiateSocialRecovery`), anyone can install it once the delay has passed
(`FinalizeSocialRecovery`), and the owner can clear it (`CancelSocialRecovery`).
Every other owner change clears a pending proposal as well.
-/

namespace DualKey

variable (P : Platform)

namespace SocialRecovery

/-! ### The address of a recovery config -/

def deriveRecoveryConfig (hybridAccount : Pubkey) : DkRes (Pubkey × UInt8) :=
  Res.okOr (P.tryFindProgramAddress (recoveryPdaSeeds hybridAccount) P.programId) .invalidPda

def verifyRecoveryConfigPda (hybridAccount recoveryConfig : Pubkey) : DkRes UInt8 := do
  let (address, bump) ← deriveRecoveryConfig P hybridAccount
  Res.failIf (address ≠ recoveryConfig) .invalidPda
  pure bump

/-- The seeds that sign for a recovery config: the address seeds and the bump. -/
def recoverySignerSeeds (hybridAccount : Pubkey) (bump : UInt8) : List (List UInt8) :=
  recoveryPdaSeeds hybridAccount ++ [[bump]]

/-! ### Handlers -/

/-- After an owner change: clear the pending proposal if there is a recovery config. -/
def clearPendingAfterEd25519OwnerChange (hybridAccount : Pubkey) (recoveryConfig : AccountInfo) :
    Prog Unit := do
  let _ ← verifyRecoveryConfigPda P hybridAccount recoveryConfig.key
  let isEmpty ← recoveryConfig.dataIsEmpty
  if isEmpty then
    pure ()
  else do
    let owner ← recoveryConfig.owner
    Exec.failIf (owner ≠ P.programId) .invalidAccountData
    Exec.failIf (recoveryConfig.isWritable = false) .invalidAccountData
    recoveryConfig.updateConfig fun cfg => pure (cfg.clearPending, ())

/-- Fund, allocate and assign the address of a recovery config. -/
def createRecoveryConfigAccount (payer recoveryConfig : AccountInfo) (hybridAccount : Pubkey)
    (bump : UInt8) : Prog Unit := do
  let isEmpty ← recoveryConfig.dataIsEmpty
  Exec.failIf (isEmpty = false) .accountAlreadyInitialized
  let env ← Exec.ask
  let lamports := env.rent.minimumBalance recoveryConfigLen
  let seeds := recoverySignerSeeds hybridAccount bump
  -- the full minimum is transferred, whatever the address holds already
  invokeSigned P (.transfer payer.key recoveryConfig.key lamports) [payer, recoveryConfig] []
    .insufficientFunds
  invokeSigned P (.allocate recoveryConfig.key (UInt64.ofNat recoveryConfigLen)) [recoveryConfig]
    [seeds] .invalidAccountData
  invokeSigned P (.assign recoveryConfig.key P.programId) [recoveryConfig] [seeds]
    .invalidAccountData

/-- Create the recovery config, or replace guardian and delay of an idle one. -/
def storeRecoveryConfig (payer recoveryConfig : AccountInfo) (hybridAccount : Pubkey)
    (bump : UInt8) (guardianEd25519 : Pubkey) (delaySlots : UInt64) : Prog Unit := do
  let isEmpty ← recoveryConfig.dataIsEmpty
  if isEmpty then do
    createRecoveryConfigAccount P payer recoveryConfig hybridAccount bump
    recoveryConfig.tryBorrowMutData fun data => do
      let config ← RecoveryConfig.initializeConfig data bump guardianEd25519 delaySlots
      pure (config.data, ())
  else do
    let owner ← recoveryConfig.owner
    Exec.failIf (owner ≠ P.programId) .invalidAccountData
    recoveryConfig.updateConfig fun cfg => do
      Res.failIf (cfg.hasPending = true) .invalidAccountData
      pure ((cfg.setGuardianEd25519 guardianEd25519).setDelaySlots delaySlots, ())

def processSetRecoveryConfig (accounts : List AccountInfo) (payload : List UInt8) :
    Prog Unit := do
  Exec.failIf (payload.length ≠ authPayloadLen) .malformedInstructionData
  let (hybridAccount, recoveryConfig, payer, systemProgram, instructionsSysvar) ←
    fiveAccounts accounts
  Exec.failIf (hybridAccount.isWritable = false ∨ recoveryConfig.isWritable = false)
    .invalidAccountData
  Exec.failIf (payer.isSigner = false) .missingSigner
  Exec.failIf (systemProgram.key ≠ systemProgramId) .invalidProgramAccount
  let owner ← hybridAccount.owner
  Exec.failIf (owner ≠ P.programId) .invalidAccountData
  let dataLen ← hybridAccount.dataLen
  Exec.failIf (dataLen ≠ accountDataLen) .invalidAccountData
  let bump ← verifyRecoveryConfigPda P hybridAccount.key recoveryConfig.key
  let (wireBytes, falconSig) ← splitWireAndFalcon payload
  let wire ← ExecuteIntentWire.decode wireBytes
  let (guardianEd25519, delaySlots) ← Exec.okOr wire.action.setRecoveryConfig? .unsupportedAction
  Exec.failIf (guardianEd25519 = ByteVec.zero 32) .invalidAccountData
  Exec.failIf (delaySlots < 1) .invalidAccountData
  let auth ← authorize P hybridAccount instructionsSysvar wire falconSig
  storeRecoveryConfig P payer recoveryConfig hybridAccount.key bump guardianEd25519 delaySlots
  hybridAccount.updateVault fun account => pure (account.setNonce auth.nextNonce)

/-- The digest a guardian signs to propose `newEd25519` for a vault. -/
def socialDigest (vault newEd25519 : Pubkey) (nonce : UInt64) : Digest :=
  P.sha256 (socialRecoverPreimage P.chainDomain P.programId vault newEd25519 nonce).toList

def processInitiateSocialRecovery (accounts : List AccountInfo) (payload : List UInt8) :
    Prog Unit := do
  Exec.failIf (payload.length ≠ 32) .malformedInstructionData
  let (hybridAccount, recoveryConfig, instructionsSysvar) ← threeAccounts accounts
  Exec.failIf (recoveryConfig.isWritable = false) .invalidAccountData
  let hybridOwner ← hybridAccount.owner
  let configOwner ← recoveryConfig.owner
  Exec.failIf (hybridOwner ≠ P.programId ∨ configOwner ≠ P.programId) .invalidAccountData
  let _ ← verifyRecoveryConfigPda P hybridAccount.key recoveryConfig.key
  let newEd25519 ← (Buffer.sliceVec 32 payload 0 : DkRes Pubkey)
  Exec.failIf (newEd25519 = ByteVec.zero 32) .invalidAccountData
  let (currentOwner, nonce) ← hybridAccount.tryBorrowData fun data => do
    Res.failIf (data.length ≠ accountDataLen) .invalidAccountData
    let recoveryEnabled ← HybridAccount.recoveryEnabledFromSlice data
    Res.failIf (recoveryEnabled = false) .invalidAccountData
    let currentOwner ← HybridAccount.ownerEd25519FromSlice data
    let nonce ← HybridAccount.nonceFromSlice data
    pure (currentOwner, nonce)
  Exec.failIf (newEd25519 = currentOwner) .invalidAccountData
  let guardian ← recoveryConfig.tryBorrowData RecoveryConfig.guardianFromSlice
  let digest := socialDigest P hybridAccount.key newEd25519 nonce
  let env ← Exec.ask
  verifyEd25519Precompile env.toInvokeContext instructionsSysvar guardian digest
  recoveryConfig.updateConfig fun cfg => do
    -- a pending proposal cannot be replaced, so its ready slot cannot be pushed back
    Res.failIf (cfg.hasPending = true) .invalidAccountData
    let ready ← Res.okOr (checkedAdd env.slot cfg.delaySlots) .mathOverflow
    pure ((cfg.setPendingNewEd25519 newEd25519).setPendingReadySlot ready, ())

/-- Install the pending key in the vault and consume a nonce. -/
def installPending (hybridAccount : AccountInfo) (pending : Pubkey) : Prog Unit :=
  hybridAccount.updateVault fun account => do
    let next ← Res.okOr (checkedAdd account.nonce 1) .mathOverflow
    pure ((account.setOwnerEd25519 pending).setNonce next)

/-- The guard of finalize and cancel: the vault's recovery flag is set. -/
def requireRecoveryEnabled (hybridAccount : AccountInfo) : Prog Unit :=
  hybridAccount.tryBorrowData fun data => do
    let recoveryEnabled ← HybridAccount.recoveryEnabledFromSlice data
    Res.failIf (recoveryEnabled = false) .invalidAccountData

def processFinalizeSocialRecovery (accounts : List AccountInfo) (payload : List UInt8) :
    Prog Unit := do
  Exec.failIf (payload ≠ []) .malformedInstructionData
  let (hybridAccount, recoveryConfig) ← twoAccounts accounts
  Exec.failIf (hybridAccount.isWritable = false ∨ recoveryConfig.isWritable = false)
    .invalidAccountData
  let hybridOwner ← hybridAccount.owner
  let configOwner ← recoveryConfig.owner
  Exec.failIf (hybridOwner ≠ P.programId ∨ configOwner ≠ P.programId) .invalidAccountData
  let _ ← verifyRecoveryConfigPda P hybridAccount.key recoveryConfig.key
  requireRecoveryEnabled hybridAccount
  let env ← Exec.ask
  let pending ← recoveryConfig.updateConfig fun cfg => do
    Res.failIf (cfg.hasPending = false) .invalidAccountData
    Res.failIf (env.slot < cfg.pendingReadySlot) .intentExpired
    pure (cfg.clearPending, cfg.pendingNewEd25519)
  installPending hybridAccount pending

def processCancelSocialRecovery (accounts : List AccountInfo) (payload : List UInt8) :
    Prog Unit := do
  Exec.failIf (payload.length ≠ authPayloadLen) .malformedInstructionData
  let (hybridAccount, recoveryConfig, instructionsSysvar) ← threeAccounts accounts
  Exec.failIf (hybridAccount.isWritable = false ∨ recoveryConfig.isWritable = false)
    .invalidAccountData
  let hybridOwner ← hybridAccount.owner
  let configOwner ← recoveryConfig.owner
  Exec.failIf (hybridOwner ≠ P.programId ∨ configOwner ≠ P.programId) .invalidAccountData
  let _ ← verifyRecoveryConfigPda P hybridAccount.key recoveryConfig.key
  requireRecoveryEnabled hybridAccount
  let (wireBytes, falconSig) ← splitWireAndFalcon payload
  let wire ← ExecuteIntentWire.decode wireBytes
  Exec.failIf (wire.action ≠ .cancelSocialRecovery) .unsupportedAction
  let auth ← authorize P hybridAccount instructionsSysvar wire falconSig
  recoveryConfig.updateConfig fun cfg => do
    Res.failIf (cfg.hasPending = false) .invalidAccountData
    pure (cfg.clearPending, ())
  hybridAccount.updateVault fun account => pure (account.setNonce auth.nextNonce)

/-! ### What the successful handlers did -/

/-- `k` is the address of the recovery config of `vault`. -/
def IsRecoveryAddress (vault k : Pubkey) (bump : UInt8) : Prop :=
  P.tryFindProgramAddress (recoveryPdaSeeds vault) P.programId = some (k, bump)

/-- The effect of an owner change on the recovery config. -/
inductive ClearsPending (m : Machine) (config : AccountInfo) : Machine → Prop where
  | absent (h : m.data config.key = []) : ClearsPending m config m
  | cleared {c : RecoveryConfig} (howner : m.owner config.key = P.programId)
    (hwritable : config.isWritable = true) (hdata : m.data config.key = c.data) :
    ClearsPending m config (m.setData config.key c.clearPending.data)

/-- The effect of `SetRecoveryConfig` on the recovery config: a fresh one is created at
the payer's expense, or an idle one gets a new guardian and delay. -/
inductive StoresConfig (inv : InvokeContext) (m : Machine) (payer config : AccountInfo)
    (vault : Pubkey) (bump : UInt8) (guardian : Pubkey) (delay : UInt64) : Machine → Prop where
  | created {m₁ : Machine} {c : RecoveryConfig} (hempty : m.data config.key = [])
    (hsystem : m.owner config.key = systemProgramId)
    (hpayer : ∀ entry ∈ (CpiInstruction.transfer payer.key config.key
      (inv.rent.minimumBalance recoveryConfigLen)).metas, Privileged P inv [] entry)
    (htransfer : systemTransfer m payer.key config.key
      (inv.rent.minimumBalance recoveryConfigLen) = some m₁)
    (hseeds : ∃ k, P.createProgramAddress (recoverySignerSeeds vault bump) P.programId = some k)
    (hpriv : Privileged P inv [recoverySignerSeeds vault bump] ⟨config.key, true, true⟩)
    (hinit : RecoveryConfig.initializeConfig (List.replicate recoveryConfigLen 0) bump guardian
      delay = .ok c) :
    StoresConfig inv m payer config vault bump guardian delay
      (((m₁.log ⟨.transfer payer.key config.key (inv.rent.minimumBalance recoveryConfigLen),
        []⟩).allot P.programId config.key (UInt64.ofNat recoveryConfigLen)
          (recoverySignerSeeds vault bump)).setData config.key c.data)
  | updated {c : RecoveryConfig} (howner : m.owner config.key = P.programId)
    (hdata : m.data config.key = c.data) (hidle : c.fields.pending = none) :
    StoresConfig inv m payer config vault bump guardian delay
      (m.setData config.key ((c.setGuardianEd25519 guardian).setDelaySlots delay).data)

/-- Everything a successful `SetRecoveryConfig` checked. -/
structure SetChecks (inv : InvokeContext) (m : Machine) (vault config payer sysvar : AccountInfo)
    (wire : ExecuteIntentWire) (falconSig : List UInt8) (guardian : Pubkey) (delay : UInt64)
    (bump : UInt8) (a : HybridAccount) (auth : Authorization) : Prop where
  accounts : ∃ systemProgram : AccountInfo, systemProgram.key = systemProgramId ∧
    inv.accounts = [vault, config, payer, systemProgram, sysvar]
  vaultWritable : vault.isWritable = true
  configWritable : config.isWritable = true
  payerSigner : payer.isSigner = true
  address : IsRecoveryAddress P vault.key config.key bump
  action : wire.action = .setRecoveryConfig guardian delay
  guardian : guardian ≠ ByteVec.zero 32
  delay : 1 ≤ delay
  authorized : Authorized P inv m vault sysvar wire falconSig a auth

/-- Everything a successful `InitiateSocialRecovery` checked. -/
structure InitiateChecks (inv : InvokeContext) (m : Machine) (vault config sysvar : AccountInfo)
    (newEd25519 : Pubkey) (ready : UInt64) (a : HybridAccount) (c : RecoveryConfig) : Prop where
  accounts : inv.accounts = [vault, config, sysvar]
  configWritable : config.isWritable = true
  vaultOwner : m.owner vault.key = P.programId
  configOwner : m.owner config.key = P.programId
  address : ∃ bump, IsRecoveryAddress P vault.key config.key bump
  nonzero : newEd25519 ≠ ByteVec.zero 32
  vaultData : m.data vault.key = a.data
  configData : m.data config.key = c.data
  enabled : a.fields.recovery = true
  change : newEd25519 ≠ a.fields.ownerEd25519
  /-- The guardian's approval of this key at the vault's nonce. -/
  approved : verifyEd25519Precompile inv sysvar c.fields.guardianEd25519
    (socialDigest P vault.key newEd25519 a.fields.nonce) = .ok ()
  idle : c.fields.pending = none
  ready : inv.slot.toNat + c.fields.delaySlots.toNat = ready.toNat

/-- Everything a successful `FinalizeSocialRecovery` checked. -/
structure FinalizeChecks (inv : InvokeContext) (m : Machine) (vault config : AccountInfo)
    (pending : Pubkey) (ready next : UInt64) (a : HybridAccount) (c : RecoveryConfig) : Prop where
  accounts : inv.accounts = [vault, config]
  vaultWritable : vault.isWritable = true
  configWritable : config.isWritable = true
  vaultOwner : m.owner vault.key = P.programId
  configOwner : m.owner config.key = P.programId
  address : ∃ bump, IsRecoveryAddress P vault.key config.key bump
  vaultData : m.data vault.key = a.data
  configData : m.data config.key = c.data
  enabled : a.fields.recovery = true
  pending : c.fields.pending = some (pending, ready)
  elapsed : ready ≤ inv.slot
  nonce : a.fields.nonce.toNat + 1 = next.toNat

/-- Everything a successful `CancelSocialRecovery` checked. -/
structure CancelChecks (inv : InvokeContext) (m : Machine) (vault config sysvar : AccountInfo)
    (wire : ExecuteIntentWire) (falconSig : List UInt8) (a : HybridAccount) (c : RecoveryConfig)
    (auth : Authorization) : Prop where
  accounts : inv.accounts = [vault, config, sysvar]
  vaultWritable : vault.isWritable = true
  configWritable : config.isWritable = true
  configOwner : m.owner config.key = P.programId
  address : ∃ bump, IsRecoveryAddress P vault.key config.key bump
  configData : m.data config.key = c.data
  enabled : a.fields.recovery = true
  action : wire.action = .cancelSocialRecovery
  pending : ∃ p, c.fields.pending = some p
  authorized : Authorized P inv m vault sysvar wire falconSig a auth

section Specs

variable {P} {inv : InvokeContext} {m m' : Machine}

/-- A vault account and a recovery config differ in length. -/
theorem data_ne_config {a : HybridAccount} {c : RecoveryConfig} : a.data ≠ c.data := by
  intro h
  have hlen := congrArg List.length h
  rw [a.length_eq, c.length_eq] at hlen
  exact absurd hlen (by decide)

/-- Hence they have different addresses. -/
theorem vault_ne_config {k k' : Pubkey} {a : HybridAccount} {c : RecoveryConfig}
    (ha : m.data k = a.data) (hc : m.data k' = c.data) : k ≠ k' := by
  rintro rfl
  exact data_ne_config (ha.symm.trans hc)

theorem verifyRecoveryConfigPda_eq_ok {vault k : Pubkey} {bump : UInt8} :
    verifyRecoveryConfigPda P vault k = .ok bump ↔ IsRecoveryAddress P vault k bump := by
  simp only [verifyRecoveryConfigPda, deriveRecoveryConfig, Res.bind_eq_ok, Res.okOr_eq_ok,
    Prod.exists, Res.failIf_eq_ok, Res.pure_eq_ok, not_not]
  constructor
  · rintro ⟨address, bump, hfind, -, rfl, rfl⟩
    exact hfind
  · intro hfind
    exact ⟨k, bump, hfind, (), rfl, rfl⟩

theorem clearPending_eq_ok {vault : Pubkey} {config : AccountInfo} {u : Unit} :
    clearPendingAfterEd25519OwnerChange P vault config inv.enter m = .ok (u, m') ↔
      (∃ bump, IsRecoveryAddress P vault config.key bump) ∧ ClearsPending P m config m' := by
  simp only [clearPendingAfterEd25519OwnerChange, Exec.bind_eq_ok, Exec.liftM_eq_ok,
    verifyRecoveryConfigPda_eq_ok, AccountInfo.dataIsEmpty_eq_ok]
  constructor
  · intro h
    obtain ⟨bump, _, ⟨haddress, rfl⟩, isEmpty, _, ⟨hempty, rfl⟩, h⟩ := h
    refine ⟨⟨bump, haddress⟩, ?_⟩
    split at h
    · next htrue =>
      -- no data, no proposal
      obtain ⟨-, rfl⟩ := Exec.pure_eq_ok.mp h
      rw [htrue, List.isEmpty_iff] at hempty
      exact ClearsPending.absent hempty
    · simp only [Exec.bind_eq_ok, AccountInfo.owner_eq_ok, Exec.failIf_eq_ok, not_not,
        AccountInfo.updateConfig_eq_ok, Res.pure_eq_ok, Prod.mk.injEq] at h
      obtain ⟨_, _, ⟨rfl, rfl⟩, _, _, ⟨howner, rfl⟩, _, _, ⟨hwritable, rfl⟩, h⟩ := h
      obtain ⟨c, _, hdata, ⟨rfl, -⟩, rfl⟩ := h
      exact ClearsPending.cleared howner (by simpa using hwritable) hdata
  · rintro ⟨⟨bump, haddress⟩, h⟩
    refine ⟨bump, m, ⟨haddress, rfl⟩, (m.data config.key).isEmpty, m, ⟨rfl, rfl⟩, ?_⟩
    cases h with
    | absent hempty =>
      rw [if_pos (by rw [hempty]; rfl)]
      exact Exec.pure_eq_ok.mpr ⟨rfl, rfl⟩
    | @cleared c howner hwritable hdata =>
      have hne : ¬ (m.data config.key).isEmpty = true := by
        rw [List.isEmpty_iff, hdata]
        exact c.data_ne_nil
      rw [if_neg hne]
      simp only [Exec.bind_eq_ok, AccountInfo.owner_eq_ok, Exec.failIf_eq_ok, not_not,
        AccountInfo.updateConfig_eq_ok, Res.pure_eq_ok, Prod.mk.injEq]
      exact ⟨_, m, ⟨rfl, rfl⟩, (), m, ⟨howner, rfl⟩, (), m, ⟨by simp [hwritable], rfl⟩, c, _,
        hdata, ⟨rfl, trivial⟩, rfl⟩

/-- The address of a recovery config is signed for by its canonical seeds. -/
theorem IsRecoveryAddress.create {vault k : Pubkey} {bump : UInt8}
    (h : IsRecoveryAddress P vault k bump) :
    P.createProgramAddress (recoverySignerSeeds vault bump) P.programId = some k :=
  P.find_spec _ _ _ h

/-- The payer funds the address, then the program allocates and assigns it. -/
theorem createRecoveryConfigAccount_eq_ok {payer config : AccountInfo} {vault : Pubkey}
    {bump : UInt8} {u : Unit} :
    createRecoveryConfigAccount P payer config vault bump inv.enter m = .ok (u, m') ↔
      m.data config.key = [] ∧ m.owner config.key = systemProgramId ∧
      (∀ entry ∈ (CpiInstruction.transfer payer.key config.key
        (inv.rent.minimumBalance recoveryConfigLen)).metas, Privileged P inv [] entry) ∧
      (∃ k, P.createProgramAddress (recoverySignerSeeds vault bump) P.programId = some k) ∧
      Privileged P inv [recoverySignerSeeds vault bump] ⟨config.key, true, true⟩ ∧
      ∃ m₁, systemTransfer m payer.key config.key (inv.rent.minimumBalance recoveryConfigLen) =
          some m₁ ∧
        (m₁.log ⟨.transfer payer.key config.key (inv.rent.minimumBalance recoveryConfigLen),
          []⟩).allot P.programId config.key (UInt64.ofNat recoveryConfigLen)
            (recoverySignerSeeds vault bump) = m' := by
  unfold createRecoveryConfigAccount
  constructor
  · intro h
    obtain ⟨isEmpty, _, hempty, h⟩ := Exec.bind_eq_ok.mp h
    obtain ⟨rfl, rfl⟩ := AccountInfo.dataIsEmpty_eq_ok.mp hempty
    obtain ⟨_, _, hguard, h⟩ := Exec.bind_eq_ok.mp h
    obtain ⟨hnil, rfl⟩ := Exec.failIf_eq_ok.mp hguard
    rw [Bool.not_eq_false, List.isEmpty_iff] at hnil
    obtain ⟨env, _, hask, h⟩ := Exec.bind_eq_ok.mp h
    obtain ⟨rfl, rfl⟩ := Exec.ask_eq_ok.mp hask
    obtain ⟨_, _, hpay, h⟩ := Exec.bind_eq_ok.mp h
    obtain ⟨-, hpayer, m₁, htransfer, rfl⟩ := invokeSigned_eq_ok.mp hpay
    obtain ⟨hseeds, hpriv, -, howner, -, hpost⟩ := invokeSigned_allocate_assign.mp h
    -- the payment leaves the owner alone, so it was the system program before
    rw [Machine.owner_log, (systemTransfer_frame htransfer).2.1] at howner
    exact ⟨hnil, howner, hpayer, hseeds, hpriv, m₁, htransfer, hpost⟩
  · rintro ⟨hnil, howner, hpayer, hseeds, hpriv, m₁, htransfer, hpost⟩
    obtain ⟨hframeData, hframeOwner, -⟩ := systemTransfer_frame htransfer
    refine Exec.bind_eq_ok.mpr ⟨_, _, AccountInfo.dataIsEmpty_eq_ok.mpr ⟨rfl, rfl⟩, ?_⟩
    refine Exec.bind_eq_ok.mpr ⟨(), m, Exec.failIf_eq_ok.mpr ⟨by simp [hnil], rfl⟩, ?_⟩
    refine Exec.bind_eq_ok.mpr ⟨_, _, Exec.ask_eq_ok.mpr ⟨rfl, rfl⟩, ?_⟩
    refine Exec.bind_eq_ok.mpr ⟨(), _,
      invokeSigned_eq_ok.mpr ⟨by simp, hpayer, m₁, htransfer, rfl⟩, ?_⟩
    refine invokeSigned_allocate_assign.mpr ⟨hseeds, hpriv, ?_, ?_, by decide, hpost⟩
    · rw [Machine.data_log, hframeData, hnil]
    · rw [Machine.owner_log, hframeOwner, howner]

/-- An idle config has no pending proposal. -/
theorem hasPending_eq_false {c : RecoveryConfig} :
    ¬ c.hasPending = true ↔ c.fields.pending = none := by
  rw [c.hasPending_iff, Option.eq_none_iff_forall_ne_some]
  exact not_exists

theorem storeRecoveryConfig_eq_ok {payer config : AccountInfo} {vault guardian : Pubkey}
    {bump : UInt8} {delay : UInt64} {u : Unit} :
    storeRecoveryConfig P payer config vault bump guardian delay inv.enter m = .ok (u, m') ↔
      StoresConfig P inv m payer config vault bump guardian delay m' := by
  unfold storeRecoveryConfig
  constructor
  · intro h
    obtain ⟨isEmpty, _, hempty, h⟩ := Exec.bind_eq_ok.mp h
    obtain ⟨rfl, rfl⟩ := AccountInfo.dataIsEmpty_eq_ok.mp hempty
    split at h
    · obtain ⟨_, _, hcreate, h⟩ := Exec.bind_eq_ok.mp h
      obtain ⟨hnil, hsystem, hpayer, hseeds, hpriv, m₁, htransfer, rfl⟩ :=
        createRecoveryConfigAccount_eq_ok.mp hcreate
      simp only [AccountInfo.tryBorrowMutData_eq_ok, Res.bind_eq_ok, Res.pure_eq_ok,
        Prod.mk.injEq, and_true] at h
      obtain ⟨_, ⟨c, hinit, rfl⟩, rfl⟩ := h
      -- the fresh account is all zero when it is initialized
      rw [Machine.data_allot, if_pos rfl] at hinit
      exact StoresConfig.created hnil hsystem hpayer htransfer hseeds hpriv hinit
    · simp only [Exec.bind_eq_ok, AccountInfo.owner_eq_ok, Exec.failIf_eq_ok, not_not,
        AccountInfo.updateConfig_eq_ok, Res.bind_eq_ok, Res.failIf_eq_ok, Res.pure_eq_ok,
        Prod.mk.injEq] at h
      obtain ⟨_, _, ⟨rfl, rfl⟩, _, _, ⟨howner, rfl⟩, c, _, hdata, ⟨_, hidle, rfl, -⟩, rfl⟩ := h
      exact StoresConfig.updated howner hdata (hasPending_eq_false.mp hidle)
  · intro h
    refine Exec.bind_eq_ok.mpr ⟨_, _, AccountInfo.dataIsEmpty_eq_ok.mpr ⟨rfl, rfl⟩, ?_⟩
    cases h with
    | @created m₁ c hnil hsystem hpayer htransfer hseeds hpriv hinit =>
      rw [if_pos (by rw [hnil]; rfl)]
      refine Exec.bind_eq_ok.mpr ⟨(), _, createRecoveryConfigAccount_eq_ok.mpr
        ⟨hnil, hsystem, hpayer, hseeds, hpriv, m₁, htransfer, rfl⟩, ?_⟩
      simp only [AccountInfo.tryBorrowMutData_eq_ok, Res.bind_eq_ok, Res.pure_eq_ok,
        Prod.mk.injEq, and_true]
      refine ⟨_, ⟨c, ?_, rfl⟩, rfl⟩
      rw [Machine.data_allot, if_pos rfl]
      exact hinit
    | @updated c howner hdata hidle =>
      -- a recovery config is never empty, so the other branch is taken
      have hne : ¬ (m.data config.key).isEmpty = true := by
        rw [List.isEmpty_iff, hdata]
        exact c.data_ne_nil
      rw [if_neg hne]
      simp only [Exec.bind_eq_ok, AccountInfo.owner_eq_ok, Exec.failIf_eq_ok, not_not,
        AccountInfo.updateConfig_eq_ok, Res.bind_eq_ok, Res.failIf_eq_ok, Res.pure_eq_ok,
        Prod.mk.injEq]
      exact ⟨_, m, ⟨rfl, rfl⟩, (), m, ⟨howner, rfl⟩, c, _, hdata,
        ⟨(), hasPending_eq_false.mpr hidle, rfl, trivial⟩, rfl⟩

/-- Storing a config does not touch the vault. -/
theorem StoresConfig.vault_frame {payer config : AccountInfo} {vault guardian : Pubkey}
    {bump : UInt8} {delay : UInt64} {a : HybridAccount}
    (h : StoresConfig P inv m payer config vault bump guardian delay m')
    (ha : m.data vault = a.data) :
    vault ≠ config.key ∧ m'.data vault = a.data ∧ m'.owner vault = m.owner vault := by
  cases h with
  | @created m₁ c hnil _ _ htransfer _ _ _ =>
    have hne : vault ≠ config.key := by
      rintro rfl
      exact a.data_ne_nil (ha.symm.trans hnil)
    obtain ⟨hframeData, hframeOwner, -⟩ := systemTransfer_frame htransfer
    refine ⟨hne, ?_, ?_⟩
    · simp [hne, hframeData, ha]
    · simp [hne, hframeOwner]
  | @updated c _ hdata _ =>
    have hne := vault_ne_config ha hdata
    refine ⟨hne, ?_, ?_⟩
    · simp [hne, ha]
    · simp

/-- **Exactness of `SetRecoveryConfig`.** -/
theorem processSetRecoveryConfig_eq_ok {payload : List UInt8} {u : Unit} :
    processSetRecoveryConfig P inv.accounts payload inv.enter m = .ok (u, m') ↔
      payload.length = authPayloadLen ∧
      ∃ wire falconSig, Presents payload wire falconSig ∧
        ∃ vault config payer sysvar guardian delay bump a auth m₁,
          SetChecks P inv m vault config payer sysvar wire falconSig guardian delay bump a auth ∧
          StoresConfig P inv m payer config vault.key bump guardian delay m₁ ∧
          m₁.setData vault.key (a.setNonce auth.nextNonce).data = m' := by
  simp only [processSetRecoveryConfig, Exec.bind_eq_ok, Exec.failIf_eq_ok, Exec.liftM_eq_ok,
    Prod.exists, not_not, not_or, fiveAccounts_eq_ok, AccountInfo.owner_eq_ok,
    AccountInfo.dataLen_eq_ok, verifyRecoveryConfigPda_eq_ok, Exec.okOr_eq_ok,
    Action.setRecoveryConfig?_eq_some, authorize_eq_ok, storeRecoveryConfig_eq_ok]
  constructor
  · intro h
    obtain ⟨_, _, ⟨hlen, rfl⟩, vault, config, payer, systemProgram, sysvar, h⟩ := h
    obtain ⟨_, ⟨haccounts, rfl⟩, _, _, ⟨⟨hvault, hconfig⟩, rfl⟩, _, _, ⟨hpayer, rfl⟩, h⟩ := h
    obtain ⟨_, _, ⟨hsystem, rfl⟩, _, _, ⟨rfl, rfl⟩, _, _, ⟨-, rfl⟩, h⟩ := h
    obtain ⟨_, _, ⟨rfl, rfl⟩, _, _, ⟨-, rfl⟩, bump, _, ⟨haddress, rfl⟩, h⟩ := h
    obtain ⟨wireBytes, falconSig, _, ⟨hsplit, rfl⟩, wire, _, ⟨hdecode, rfl⟩, h⟩ := h
    obtain ⟨guardian, delay, _, ⟨haction, rfl⟩, _, _, ⟨hguardian, rfl⟩, h⟩ := h
    obtain ⟨_, _, ⟨hdelay, rfl⟩, auth, _, ⟨rfl, a, hauth⟩, _, m₁, hstores, h⟩ := h
    obtain ⟨-, hpresents⟩ := (splitWireAndFalcon_eq_ok hlen).mp ⟨hsplit, hdecode⟩
    -- the vault is written after the config and still carries what was authorized
    obtain ⟨_, hvaultData, _⟩ := hstores.vault_frame hauth.data
    rw [AccountInfo.updateVault_of_data hvaultData] at h
    simp only [Res.pure_eq_ok, exists_eq_left'] at h
    refine ⟨hlen, wire, falconSig, hpresents, vault, config, payer, sysvar, guardian, delay, bump,
      a, auth, m₁, ?_, hstores, h⟩
    exact
      { accounts := ⟨systemProgram, hsystem, haccounts⟩, vaultWritable := by simpa using hvault
        configWritable := by simpa using hconfig, payerSigner := by simpa using hpayer
        address := haddress, action := haction, guardian := hguardian
        delay := UInt64.not_lt.mp hdelay, authorized := hauth }
  · rintro ⟨hlen, wire, falconSig, hpresents, vault, config, payer, sysvar, guardian, delay, bump,
      a, auth, m₁, hc, hstores, hpost⟩
    obtain ⟨hsplit, hdecode⟩ := (splitWireAndFalcon_eq_ok hlen).mpr ⟨rfl, hpresents⟩
    obtain ⟨systemProgram, hsystem, haccounts⟩ := hc.accounts
    obtain ⟨_, hvaultData, _⟩ := hstores.vault_frame hc.authorized.data
    refine ⟨(), m, ⟨hlen, rfl⟩, vault, config, payer, systemProgram, sysvar, m, ⟨haccounts, rfl⟩,
      (), m, ⟨⟨by simp [hc.vaultWritable], by simp [hc.configWritable]⟩, rfl⟩, (), m,
      ⟨by simp [hc.payerSigner], rfl⟩, (), m, ⟨hsystem, rfl⟩, _, m, ⟨rfl, rfl⟩, (), m,
      ⟨hc.authorized.owner, rfl⟩, _, m, ⟨rfl, rfl⟩, (), m, ⟨?_, rfl⟩, bump, m, ⟨hc.address, rfl⟩,
      _, falconSig, m, ⟨hsplit, rfl⟩, wire, m, ⟨hdecode, rfl⟩, guardian, delay, m,
      ⟨hc.action, rfl⟩, (), m, ⟨hc.guardian, rfl⟩, (), m, ⟨UInt64.not_lt.mpr hc.delay, rfl⟩, auth,
      m, ⟨rfl, a, hc.authorized⟩, (), m₁, hstores, ?_⟩
    · rw [hc.authorized.data, a.length_eq]
    · rw [AccountInfo.updateVault_of_data hvaultData]
      simpa only [Res.pure_eq_ok, exists_eq_left'] using hpost

/-- **Exactness of `InitiateSocialRecovery`.** -/
theorem processInitiateSocialRecovery_eq_ok {payload : List UInt8} {u : Unit} :
    processInitiateSocialRecovery P inv.accounts payload inv.enter m = .ok (u, m') ↔
      ∃ newEd25519 : Pubkey, newEd25519.toList = payload ∧
        ∃ vault config sysvar ready a c,
          InitiateChecks P inv m vault config sysvar newEd25519 ready a c ∧
          m.setData config.key
            ((c.setPendingNewEd25519 newEd25519).setPendingReadySlot ready).data = m' := by
  simp only [processInitiateSocialRecovery, Exec.bind_eq_ok, Exec.failIf_eq_ok, Exec.liftM_eq_ok,
    Prod.exists, not_not, not_or, threeAccounts_eq_ok, AccountInfo.owner_eq_ok,
    verifyRecoveryConfigPda_eq_ok, AccountInfo.tryBorrowData_eq_ok, Res.bind_eq_ok,
    Res.failIf_eq_ok, Res.pure_eq_ok, Exec.ask_eq_ok, AccountInfo.updateConfig_eq_ok,
    Res.okOr_eq_ok, checkedAdd_eq_some, Prod.mk.injEq]
  constructor
  · intro h
    obtain ⟨_, _, ⟨hlen, rfl⟩, vault, config, sysvar, _, ⟨haccounts, rfl⟩, h⟩ := h
    obtain ⟨_, _, ⟨hconfig, rfl⟩, _, _, ⟨rfl, rfl⟩, _, _, ⟨rfl, rfl⟩, h⟩ := h
    obtain ⟨_, _, ⟨⟨hvaultOwner, hconfigOwner⟩, rfl⟩, bump, _, ⟨haddress, rfl⟩, h⟩ := h
    obtain ⟨key, _, ⟨hkey, rfl⟩, _, _, ⟨hnonzero, rfl⟩, owner, nonce, _, ⟨hread, rfl⟩, h⟩ := h
    obtain ⟨_, _, ⟨hchange, rfl⟩, guardian, _, ⟨hguardian, rfl⟩, _, _, ⟨rfl, rfl⟩, h⟩ := h
    obtain ⟨_, _, ⟨happroved, rfl⟩, c, _, hc, ⟨_, hidle, ready, hready, rfl, -⟩, rfl⟩ := h
    obtain ⟨_, hvaultLen, enabled, henabled, _, hset, owner', howner', nonce', hnonce', rfl, rfl⟩ :=
      hread
    obtain ⟨a, ha⟩ := HybridAccount.exists_view hvaultLen
    rw [← ha, HybridAccount.recoveryEnabledFromSlice_data, Except.ok.injEq] at henabled
    rw [← ha, HybridAccount.ownerEd25519FromSlice_data, Except.ok.injEq] at howner'
    rw [← ha, HybridAccount.nonceFromSlice_data, Except.ok.injEq] at hnonce'
    subst henabled howner' hnonce'
    -- the config is borrowed twice: for its guardian, and to store the proposal
    obtain ⟨c', hc', rfl⟩ := RecoveryConfig.guardianFromSlice_eq_ok.mp hguardian
    obtain rfl := RecoveryConfig.data_injective (hc'.trans hc)
    refine ⟨key, (Buffer.sliceVec_whole hlen).mp hkey, vault, config, sysvar, ready, a, c', ?_, rfl⟩
    exact
      { accounts := haccounts, configWritable := by simpa using hconfig
        vaultOwner := hvaultOwner, configOwner := hconfigOwner, address := ⟨bump, haddress⟩
        nonzero := hnonzero, vaultData := ha.symm, configData := hc
        enabled := by simpa using hset, change := hchange, approved := happroved
        idle := hasPending_eq_false.mp hidle, ready := hready }
  · rintro ⟨key, rfl, vault, config, sysvar, ready, a, c, hc, rfl⟩
    have hlen := key.toList_length
    obtain ⟨bump, haddress⟩ := hc.address
    refine ⟨(), m, ⟨hlen, rfl⟩, vault, config, sysvar, m, ⟨hc.accounts, rfl⟩, (), m,
      ⟨by simp [hc.configWritable], rfl⟩, _, m, ⟨rfl, rfl⟩, _, m, ⟨rfl, rfl⟩, (), m,
      ⟨⟨hc.vaultOwner, hc.configOwner⟩, rfl⟩, bump, m, ⟨haddress, rfl⟩, key, m,
      ⟨(Buffer.sliceVec_whole hlen).mpr rfl, rfl⟩, (), m, ⟨hc.nonzero, rfl⟩,
      a.fields.ownerEd25519, a.fields.nonce, m, ⟨?_, rfl⟩, (), m, ⟨hc.change, rfl⟩,
      c.fields.guardianEd25519, m, ⟨?_, rfl⟩, _, m, ⟨rfl, rfl⟩, (), m, ⟨hc.approved, rfl⟩, c, _,
      hc.configData, ⟨(), hasPending_eq_false.mpr hc.idle, ready, hc.ready, rfl, trivial⟩, rfl⟩
    · rw [hc.vaultData]
      exact ⟨(), a.length_eq, true, by rw [a.recoveryEnabledFromSlice_data, hc.enabled], (),
        by simp, _, a.ownerEd25519FromSlice_data, _, a.nonceFromSlice_data, rfl, rfl⟩
    · exact RecoveryConfig.guardianFromSlice_eq_ok.mpr ⟨c, hc.configData.symm, rfl⟩

theorem requireRecoveryEnabled_eq_ok {vault : AccountInfo} {u : Unit} :
    requireRecoveryEnabled vault inv.enter m = .ok (u, m') ↔
      m = m' ∧ ∃ a : HybridAccount, m.data vault.key = a.data ∧ a.fields.recovery = true := by
  simp only [requireRecoveryEnabled, AccountInfo.tryBorrowData_eq_ok, Res.bind_eq_ok,
    HybridAccount.recoveryEnabledFromSlice_eq_ok, Res.failIf_eq_ok, Bool.not_eq_false]
  constructor
  · rintro ⟨⟨_, ⟨a, ha, rfl⟩, henabled⟩, hm⟩
    exact ⟨hm, a, ha.symm, henabled⟩
  · rintro ⟨hm, a, ha, henabled⟩
    exact ⟨⟨_, ⟨a, ha.symm, rfl⟩, henabled⟩, hm⟩

theorem installPending_eq_ok {vault : AccountInfo} {pending : Pubkey} {u : Unit}
    {a : HybridAccount} (ha : m.data vault.key = a.data) :
    installPending vault pending inv.enter m = .ok (u, m') ↔
      ∃ next : UInt64, a.fields.nonce.toNat + 1 = next.toNat ∧
        m.setData vault.key ((a.setOwnerEd25519 pending).setNonce next).data = m' := by
  simp only [installPending, AccountInfo.updateVault_of_data ha, Res.bind_eq_ok, Res.okOr_eq_ok,
    checkedAdd_eq_some, Res.pure_eq_ok]
  constructor
  · rintro ⟨_, ⟨next, hnext, rfl⟩, hm⟩
    exact ⟨next, hnext, hm⟩
  · rintro ⟨next, hnext, hm⟩
    exact ⟨_, ⟨next, hnext, rfl⟩, hm⟩

/-- **Exactness of `FinalizeSocialRecovery`.** -/
theorem processFinalizeSocialRecovery_eq_ok {payload : List UInt8} {u : Unit} :
    processFinalizeSocialRecovery P inv.accounts payload inv.enter m = .ok (u, m') ↔
      payload = [] ∧
      ∃ vault config pending ready next a c,
        FinalizeChecks P inv m vault config pending ready next a c ∧
        (m.setData config.key c.clearPending.data).setData vault.key
          ((a.setOwnerEd25519 pending).setNonce next).data = m' := by
  simp only [processFinalizeSocialRecovery, Exec.bind_eq_ok, Exec.failIf_eq_ok, Exec.liftM_eq_ok,
    Prod.exists, not_not, not_or, twoAccounts_eq_ok, AccountInfo.owner_eq_ok,
    verifyRecoveryConfigPda_eq_ok, requireRecoveryEnabled_eq_ok, Exec.ask_eq_ok,
    AccountInfo.updateConfig_eq_ok, Res.bind_eq_ok, Res.failIf_eq_ok, Res.pure_eq_ok,
    Prod.mk.injEq, Bool.not_eq_false, UInt64.not_lt]
  constructor
  · intro h
    obtain ⟨_, _, ⟨hpayload, rfl⟩, vault, config, _, ⟨haccounts, rfl⟩, h⟩ := h
    obtain ⟨_, _, ⟨⟨hvault, hconfig⟩, rfl⟩, _, _, ⟨rfl, rfl⟩, _, _, ⟨rfl, rfl⟩, h⟩ := h
    obtain ⟨_, _, ⟨⟨hvaultOwner, hconfigOwner⟩, rfl⟩, bump, _, ⟨haddress, rfl⟩, h⟩ := h
    obtain ⟨_, _, ⟨rfl, a, ha, henabled⟩, _, _, ⟨rfl, rfl⟩, pending, _, hupdate, h⟩ := h
    obtain ⟨c, _, hc, ⟨_, hpending, _, helapsed, rfl, hkey⟩, rfl⟩ := hupdate
    -- clearing the config does not touch the vault, into which the key goes
    have hne := vault_ne_config ha hc
    rw [installPending_eq_ok (a := a) (by rw [Machine.data_setData, if_neg hne, ha])] at h
    obtain ⟨next, hnext, rfl⟩ := h
    obtain ⟨⟨pending', ready⟩, hsome⟩ := c.hasPending_iff.mp hpending
    obtain ⟨rfl, rfl, _⟩ := RecoveryFields.pending_eq_some.mp hsome
    cases hkey
    refine ⟨hpayload, vault, config, _, c.fields.pendingReadySlot, next, a, c, ?_, rfl⟩
    exact
      { accounts := haccounts, vaultWritable := by simpa using hvault
        configWritable := by simpa using hconfig, vaultOwner := hvaultOwner
        configOwner := hconfigOwner, address := ⟨bump, haddress⟩, vaultData := ha
        configData := hc, enabled := henabled, pending := hsome, elapsed := helapsed
        nonce := hnext }
  · rintro ⟨hpayload, vault, config, pending, ready, next, a, c, hc, rfl⟩
    obtain ⟨bump, haddress⟩ := hc.address
    obtain ⟨hkey, hready, _⟩ := RecoveryFields.pending_eq_some.mp hc.pending
    have hne := vault_ne_config hc.vaultData hc.configData
    refine ⟨(), m, ⟨hpayload, rfl⟩, vault, config, m, ⟨hc.accounts, rfl⟩, (), m,
      ⟨⟨by simp [hc.vaultWritable], by simp [hc.configWritable]⟩, rfl⟩, _, m, ⟨rfl, rfl⟩, _, m,
      ⟨rfl, rfl⟩, (), m, ⟨⟨hc.vaultOwner, hc.configOwner⟩, rfl⟩, bump, m, ⟨haddress, rfl⟩, (), m,
      ⟨rfl, a, hc.vaultData, hc.enabled⟩, _, m, ⟨rfl, rfl⟩, pending, _,
      ⟨c, _, hc.configData, ⟨(), c.hasPending_iff.mpr ⟨_, hc.pending⟩, (), ?_, rfl, hkey⟩, rfl⟩,
      (installPending_eq_ok ?_).mpr ⟨next, hc.nonce, rfl⟩⟩
    · show c.fields.pendingReadySlot ≤ inv.slot
      rw [hready]
      exact hc.elapsed
    · rw [Machine.data_setData, if_neg hne, hc.vaultData]

/-- **Exactness of `CancelSocialRecovery`.** -/
theorem processCancelSocialRecovery_eq_ok {payload : List UInt8} {u : Unit} :
    processCancelSocialRecovery P inv.accounts payload inv.enter m = .ok (u, m') ↔
      payload.length = authPayloadLen ∧
      ∃ wire falconSig, Presents payload wire falconSig ∧
        ∃ vault config sysvar a c auth,
          CancelChecks P inv m vault config sysvar wire falconSig a c auth ∧
          (m.setData config.key c.clearPending.data).setData vault.key
            (a.setNonce auth.nextNonce).data = m' := by
  simp only [processCancelSocialRecovery, Exec.bind_eq_ok, Exec.failIf_eq_ok, Exec.liftM_eq_ok,
    Prod.exists, not_not, not_or, threeAccounts_eq_ok, AccountInfo.owner_eq_ok,
    verifyRecoveryConfigPda_eq_ok, requireRecoveryEnabled_eq_ok, authorize_eq_ok,
    AccountInfo.updateConfig_eq_ok, Res.bind_eq_ok, Res.failIf_eq_ok, Res.pure_eq_ok,
    Prod.mk.injEq, Bool.not_eq_false]
  constructor
  · intro h
    obtain ⟨_, _, ⟨hlen, rfl⟩, vault, config, sysvar, _, ⟨haccounts, rfl⟩, h⟩ := h
    obtain ⟨_, _, ⟨⟨hvault, hconfig⟩, rfl⟩, _, _, ⟨rfl, rfl⟩, _, _, ⟨rfl, rfl⟩, h⟩ := h
    obtain ⟨_, _, ⟨⟨_, hconfigOwner⟩, rfl⟩, bump, _, ⟨haddress, rfl⟩, h⟩ := h
    obtain ⟨_, _, ⟨rfl, a', ha', henabled⟩, wireBytes, falconSig, _, ⟨hsplit, rfl⟩, h⟩ := h
    obtain ⟨wire, _, ⟨hdecode, rfl⟩, _, _, ⟨haction, rfl⟩, auth, _, ⟨rfl, a, hauth⟩, h⟩ := h
    obtain ⟨_, _, ⟨c, _, hc, ⟨_, hpending, rfl, -⟩, rfl⟩, h⟩ := h
    -- the guard and the authorization read one vault
    obtain rfl := HybridAccount.data_injective (ha'.symm.trans hauth.data)
    have hne := vault_ne_config hauth.data hc
    rw [AccountInfo.updateVault_of_data (v := a')
      (by rw [Machine.data_setData, if_neg hne, ha'])] at h
    simp only [Res.pure_eq_ok, exists_eq_left'] at h
    obtain ⟨-, hpresents⟩ := (splitWireAndFalcon_eq_ok hlen).mp ⟨hsplit, hdecode⟩
    refine ⟨hlen, wire, falconSig, hpresents, vault, config, sysvar, a', c, auth, ?_, h⟩
    exact
      { accounts := haccounts, vaultWritable := by simpa using hvault
        configWritable := by simpa using hconfig, configOwner := hconfigOwner
        address := ⟨bump, haddress⟩, configData := hc, enabled := henabled, action := haction
        pending := c.hasPending_iff.mp hpending, authorized := hauth }
  · rintro ⟨hlen, wire, falconSig, hpresents, vault, config, sysvar, a, c, auth, hc, hpost⟩
    obtain ⟨hsplit, hdecode⟩ := (splitWireAndFalcon_eq_ok hlen).mpr ⟨rfl, hpresents⟩
    obtain ⟨bump, haddress⟩ := hc.address
    have hne := vault_ne_config hc.authorized.data hc.configData
    refine ⟨(), m, ⟨hlen, rfl⟩, vault, config, sysvar, m, ⟨hc.accounts, rfl⟩, (), m,
      ⟨⟨by simp [hc.vaultWritable], by simp [hc.configWritable]⟩, rfl⟩, _, m, ⟨rfl, rfl⟩, _, m,
      ⟨rfl, rfl⟩, (), m, ⟨⟨hc.authorized.owner, hc.configOwner⟩, rfl⟩, bump, m, ⟨haddress, rfl⟩,
      (), m, ⟨rfl, a, hc.authorized.data, hc.enabled⟩, _, falconSig, m, ⟨hsplit, rfl⟩, wire, m,
      ⟨hdecode, rfl⟩, (), m, ⟨hc.action, rfl⟩, auth, m, ⟨rfl, a, hc.authorized⟩, (), _,
      ⟨c, _, hc.configData, ⟨(), c.hasPending_iff.mpr hc.pending, rfl, trivial⟩, rfl⟩, ?_⟩
    rw [AccountInfo.updateVault_of_data (v := a)
      (by rw [Machine.data_setData, if_neg hne, hc.authorized.data])]
    simpa only [Res.pure_eq_ok, exists_eq_left'] using hpost

end Specs

end SocialRecovery

end DualKey
