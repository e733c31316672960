import DualKey.Program.Processor
import DualKey.Properties.WireFormat

/-!
# The handlers behind their framing

A handler first takes its instruction apart: it checks the width of the payload, the number
of the accounts and their privileges, splits the payload and decodes the fragment, and looks
at the action. What it does then depends on the accounts and on the parts alone. This file
writes that second half down for every handler, `*Body`, with the accounts and the parts as
arguments and without any check of the first, and shows that a handler on a well-framed
instruction *is* its second half: the two are equal as programs, so they agree in every
result, every error and every effect.
-/

namespace DualKey

open Buffer

variable (P : Platform)

/-! ### Splitting a payload -/

section Payload

variable (wire : ExecuteIntentWire) {falconSig : List UInt8}

theorem authPayload_length (h : falconSig.length = falconSignatureLen) :
    (wire.encode.toList ++ falconSig).length = authPayloadLen := by
  rw [List.length_append, wire.encode.toList_length, h]
  rfl

theorem splitWireAndFalcon_append (falconSig : List UInt8) :
    splitWireAndFalcon (wire.encode.toList ++ falconSig) = .ok (wire.encode.toList, falconSig) := by
  have hlen := wire.encode.toList_length
  simp only [splitWireAndFalcon, Res.bind_eq_ok, Res.failIf_eq_ok, Res.pure_eq_ok]
  refine ⟨(), ?_, ?_⟩
  · rw [List.length_append, hlen]
    omega
  · rw [List.take_left' hlen, List.drop_left' hlen]

theorem splitAtChecked_append {xs ys : List UInt8} {n : ℕ} (h : xs.length = n) :
    splitAtChecked (xs ++ ys) n = some (xs, ys) := by
  refine splitAtChecked_eq_some.mpr ⟨?_, List.take_left' h, List.drop_left' h⟩
  rw [List.length_append, h]
  exact Nat.le_add_right _ _

theorem splitFalconPayload_append {newWirePk falconPop : List UInt8}
    (hsig : falconSig.length = falconSignatureLen) (hkey : newWirePk.length = falconWirePubkeyLen)
    (hpop : falconPop.length = falconSignatureLen) :
    Rotate.splitFalconPayload (wire.encode.toList ++ (falconSig ++ (newWirePk ++ falconPop))) =
      .ok (wire.encode.toList, falconSig, newWirePk, falconPop) := by
  simp only [Rotate.splitFalconPayload, Res.bind_eq_ok, Res.okOr_eq_ok, Prod.exists,
    Res.failIf_eq_ok, Res.pure_eq_ok, Prod.mk.injEq]
  exact ⟨_, _, splitAtChecked_append wire.encode.toList_length, _, _, splitAtChecked_append hsig,
    _, _, splitAtChecked_append hkey, (), by simpa using hpop, rfl, rfl, rfl, rfl⟩

end Payload

/-! ### `Execute` -/

namespace Execute

/-- A transfer of lamports to the recipient account. -/
def transferSolBody (hybridAccount recipient instructionsSysvar : AccountInfo)
    (wire : ExecuteIntentWire) (falconSig : List UInt8) (lamports : UInt64) : Prog Unit := do
  Exec.failIf (recipient.key = hybridAccount.key) .invalidAccountData
  let auth ← authorize P hybridAccount instructionsSysvar wire falconSig
  bumpNonce hybridAccount auth.nextNonce
  transferSol hybridAccount recipient lamports

theorem process_transferSol {wire : ExecuteIntentWire} {falconSig : List UInt8}
    {hybridAccount recipient instructionsSysvar : AccountInfo} {lamports : UInt64}
    (hsig : falconSig.length = falconSignatureLen)
    (haction : wire.action = .transferSol recipient.key lamports)
    (hvault : hybridAccount.isWritable = true) (hrecipient : recipient.isWritable = true) :
    process P [hybridAccount, recipient, instructionsSysvar] (wire.encode.toList ++ falconSig) =
      transferSolBody P hybridAccount recipient instructionsSysvar wire falconSig lamports := by
  have hwritable : ¬ (hybridAccount.isWritable = false ∨ recipient.isWritable = false) := by
    simp [hvault, hrecipient]
  have hkey : ¬ recipient.key ≠ recipient.key := not_not.mpr rfl
  unfold process processTransferSol transferSolBody
  simp only [Exec.failIf_of_not (not_not.mpr (authPayload_length wire hsig)), Exec.pure_bind,
    Exec.liftM_of_ok (splitWireAndFalcon_append wire falconSig),
    Exec.liftM_of_ok wire.decode_encode, haction]
  simp only [Exec.liftM_of_ok (threeAccounts_eq_ok.mpr rfl), Exec.failIf_of_not hwritable,
    Exec.failIf_of_not hkey, Exec.pure_bind]

end Execute

namespace SplToken

/-- The transfer of tokens, on accounts whose privileges and destination are right. -/
def transferSplBody (hybridAccount creator source mint destination tokenProgram : AccountInfo)
    (amount : UInt64) : Prog Unit := do
  Exec.failIf (source.key = destination.key) .invalidAccountData
  Exec.failIf (isSupportedTokenProgram tokenProgram.key = false) .invalidProgramAccount
  let sourceOwner ← source.owner
  let destinationOwner ← destination.owner
  let mintOwner ← mint.owner
  Exec.failIf (sourceOwner ≠ tokenProgram.key ∨ destinationOwner ≠ tokenProgram.key ∨
    mintOwner ≠ tokenProgram.key) .invalidAccountData
  let (bump, accountIndex) ← hybridAccount.tryBorrowData seedParts
  let seeds := Pda.signerSeeds creator.key accountIndex bump
  let derived ← Exec.okOr (P.createProgramAddress seeds P.programId) .invalidPda
  Exec.failIf (derived ≠ hybridAccount.key) .invalidPda
  let decimals ← mint.tryBorrowData mintDecimals
  source.tryBorrowData fun sourceData => checkSource sourceData mint.key hybridAccount.key amount
  destination.tryBorrowData fun destData => checkTokenAccount destData mint.key
  if amount = 0 then
    pure ()
  else
    invokeSigned P
      (.token (transferCheckedInstruction tokenProgram.key source.key mint.key destination.key
        hybridAccount.key amount decimals))
      [source, mint, destination, hybridAccount, tokenProgram] [seeds] .insufficientFunds

theorem transferSpl_destination
    {hybridAccount creator source mint destination tokenProgram : AccountInfo} {amount : UInt64}
    (hsource : source.isWritable = true) (hdestination : destination.isWritable = true) :
    transferSpl P hybridAccount creator source mint destination tokenProgram amount
        destination.key =
      transferSplBody P hybridAccount creator source mint destination tokenProgram amount := by
  have hwritable : ¬ (source.isWritable = false ∨ destination.isWritable = false) := by
    simp [hsource, hdestination]
  have hkey : ¬ destination.key ≠ destination.key := not_not.mpr rfl
  unfold transferSpl transferSplBody
  simp only [Exec.failIf_of_not hwritable, Exec.failIf_of_not hkey, Exec.pure_bind]

end SplToken

namespace Execute

/-- A transfer of tokens to the destination account. -/
def transferSplBody
    (hybridAccount creator source mint destination tokenProgram instructionsSysvar : AccountInfo)
    (wire : ExecuteIntentWire) (falconSig : List UInt8) (amount : UInt64) : Prog Unit := do
  let auth ← authorize P hybridAccount instructionsSysvar wire falconSig
  bumpNonce hybridAccount auth.nextNonce
  SplToken.transferSplBody P hybridAccount creator source mint destination tokenProgram amount

theorem process_transferSpl {wire : ExecuteIntentWire} {falconSig : List UInt8}
    {hybridAccount creator source mint destination tokenProgram instructionsSysvar : AccountInfo}
    {amount : UInt64} (hsig : falconSig.length = falconSignatureLen)
    (haction : wire.action = .transferSpl destination.key amount)
    (hvault : hybridAccount.isWritable = true) (hsource : source.isWritable = true)
    (hdestination : destination.isWritable = true) :
    process P [hybridAccount, creator, source, mint, destination, tokenProgram,
        instructionsSysvar] (wire.encode.toList ++ falconSig) =
      transferSplBody P hybridAccount creator source mint destination tokenProgram
        instructionsSysvar wire falconSig amount := by
  have hwritable : ¬ hybridAccount.isWritable = false := by simp [hvault]
  unfold process processTransferSpl transferSplBody
  simp only [Exec.failIf_of_not (not_not.mpr (authPayload_length wire hsig)), Exec.pure_bind,
    Exec.liftM_of_ok (splitWireAndFalcon_append wire falconSig),
    Exec.liftM_of_ok wire.decode_encode, haction]
  simp only [Exec.liftM_of_ok (sevenAccounts_eq_ok.mpr rfl), Exec.failIf_of_not hwritable,
    Exec.pure_bind, SplToken.transferSpl_destination P hsource hdestination]

end Execute

/-! ### Rotations and the policy -/

namespace SocialRecovery

/-- The proposal is cleared if there is a recovery config, which is writable. -/
def clearPendingBody (hybridAccount : Pubkey) (recoveryConfig : AccountInfo) : Prog Unit := do
  let _ ← verifyRecoveryConfigPda P hybridAccount recoveryConfig.key
  let isEmpty ← recoveryConfig.dataIsEmpty
  if isEmpty then
    pure ()
  else do
    let owner ← recoveryConfig.owner
    Exec.failIf (owner ≠ P.programId) .invalidAccountData
    recoveryConfig.updateConfig fun cfg => pure (cfg.clearPending, ())

theorem clearPending_writable {hybridAccount : Pubkey} {recoveryConfig : AccountInfo}
    (h : recoveryConfig.isWritable = true) :
    clearPendingAfterEd25519OwnerChange P hybridAccount recoveryConfig =
      clearPendingBody P hybridAccount recoveryConfig := by
  have hwritable : ¬ recoveryConfig.isWritable = false := by simp [h]
  unfold clearPendingAfterEd25519OwnerChange clearPendingBody
  simp only [Exec.failIf_of_not hwritable, Exec.pure_bind]

end SocialRecovery

namespace Rotate

/-- The replacement of the Ed25519 owner. -/
def ed25519Body (hybridAccount recoveryConfig instructionsSysvar : AccountInfo)
    (wire : ExecuteIntentWire) (falconSig : List UInt8) (newPubkey : Pubkey) : Prog Unit := do
  let current ← hybridAccount.tryBorrowData HybridAccount.ownerEd25519FromSlice
  Exec.failIf (newPubkey = current) .invalidAccountData
  let auth ← authorize P hybridAccount instructionsSysvar wire falconSig
  applyEd25519Rotation hybridAccount newPubkey auth
  SocialRecovery.clearPendingBody P hybridAccount.key recoveryConfig

theorem processRotateEd25519_eq_body {wire : ExecuteIntentWire} {falconSig : List UInt8}
    {hybridAccount recoveryConfig instructionsSysvar : AccountInfo} {newPubkey : Pubkey}
    (hsig : falconSig.length = falconSignatureLen)
    (haction : wire.action = .rotateEd25519Key newPubkey)
    (hvault : hybridAccount.isWritable = true) (hconfig : recoveryConfig.isWritable = true) :
    processRotateEd25519 P [hybridAccount, recoveryConfig, instructionsSysvar]
        (wire.encode.toList ++ falconSig) =
      ed25519Body P hybridAccount recoveryConfig instructionsSysvar wire falconSig newPubkey := by
  have hwritable : ¬ hybridAccount.isWritable = false := by simp [hvault]
  unfold processRotateEd25519 ed25519Body
  simp only [Exec.failIf_of_not (not_not.mpr (authPayload_length wire hsig)),
    Exec.liftM_of_ok (threeAccounts_eq_ok.mpr rfl), Exec.failIf_of_not hwritable, Exec.pure_bind,
    Exec.liftM_of_ok (splitWireAndFalcon_append wire falconSig),
    Exec.liftM_of_ok wire.decode_encode,
    Exec.okOr_of_some (Action.rotateEd25519Key?_eq_some.mpr haction),
    SocialRecovery.clearPending_writable P hconfig]

/-- The replacement of the Falcon key. -/
def falconBody (hybridAccount instructionsSysvar : AccountInfo) (wire : ExecuteIntentWire)
    (falconAuth newWirePk falconPop : List UInt8) (newPubkeyHash : Digest) : Prog Unit := do
  Exec.failIf (P.sha256 newWirePk ≠ newPubkeyHash) .digestMismatch
  let currentHash ← hybridAccount.tryBorrowData HybridAccount.falconPublicKeyHashFromSlice
  Exec.failIf (newPubkeyHash = currentHash) .invalidAccountData
  let auth ← authorize P hybridAccount instructionsSysvar wire falconAuth
  verifyFalconRaw P newWirePk auth.digest.toList falconPop
  applyFalconRotation P hybridAccount newWirePk newPubkeyHash auth

theorem processRotateFalcon_eq_body {wire : ExecuteIntentWire}
    {falconAuth newWirePk falconPop : List UInt8} {newPubkeyHash : Digest}
    {hybridAccount instructionsSysvar : AccountInfo}
    (hsig : falconAuth.length = falconSignatureLen)
    (hkey : newWirePk.length = falconWirePubkeyLen) (hpop : falconPop.length = falconSignatureLen)
    (haction : wire.action = .rotateFalconKey newPubkeyHash)
    (hvault : hybridAccount.isWritable = true) :
    processRotateFalcon P [hybridAccount, instructionsSysvar]
        (wire.encode.toList ++ (falconAuth ++ (newWirePk ++ falconPop))) =
      falconBody P hybridAccount instructionsSysvar wire falconAuth newWirePk falconPop
        newPubkeyHash := by
  have hwritable : ¬ hybridAccount.isWritable = false := by simp [hvault]
  have hlen : (wire.encode.toList ++ (falconAuth ++ (newWirePk ++ falconPop))).length =
      rotateFalconPayloadLen := by
    simp only [List.length_append, wire.encode.toList_length, hsig, hkey, hpop]
    rfl
  unfold processRotateFalcon falconBody
  simp only [Exec.failIf_of_not (not_not.mpr hlen), Exec.liftM_of_ok (twoAccounts_eq_ok.mpr rfl),
    Exec.failIf_of_not hwritable, Exec.pure_bind,
    Exec.liftM_of_ok (splitFalconPayload_append wire hsig hkey hpop),
    Exec.liftM_of_ok wire.decode_encode,
    Exec.okOr_of_some (Action.rotateFalconKey?_eq_some.mpr haction)]

end Rotate

namespace ChangePolicy

/-- The change of the policy and its threshold. -/
def body (hybridAccount instructionsSysvar : AccountInfo) (wire : ExecuteIntentWire)
    (falconSig : List UInt8) (newPolicy : UInt8) (threshold : UInt64) : Prog Unit := do
  let target ← Exec.okOr (AuthorizationPolicy.fromU8 newPolicy) .invalidAccountData
  Exec.failIf (target.isImplemented = false) .policyNotImplemented
  let threshold := resultingThreshold target threshold
  let (current, currentThreshold) ← hybridAccount.tryBorrowData fun data => do
    let current ← HybridAccount.policyFromSlice data
    let currentThreshold ← HybridAccount.falconRequiredAboveFromSlice data
    pure (current, currentThreshold)
  Exec.failIf (current = target ∧ currentThreshold = threshold) .invalidAccountData
  let auth ← authorize P hybridAccount instructionsSysvar wire falconSig
  applyPolicyChange hybridAccount target threshold auth

theorem process_eq_body {wire : ExecuteIntentWire} {falconSig : List UInt8}
    {hybridAccount instructionsSysvar : AccountInfo} {newPolicy : UInt8} {threshold : UInt64}
    (hsig : falconSig.length = falconSignatureLen)
    (haction : wire.action = .changePolicy newPolicy threshold)
    (hvault : hybridAccount.isWritable = true) :
    process P [hybridAccount, instructionsSysvar] (wire.encode.toList ++ falconSig) =
      body P hybridAccount instructionsSysvar wire falconSig newPolicy threshold := by
  have hwritable : ¬ hybridAccount.isWritable = false := by simp [hvault]
  unfold process body
  simp only [Exec.failIf_of_not (not_not.mpr (authPayload_length wire hsig)),
    Exec.liftM_of_ok (twoAccounts_eq_ok.mpr rfl), Exec.failIf_of_not hwritable, Exec.pure_bind,
    Exec.liftM_of_ok (splitWireAndFalcon_append wire falconSig),
    Exec.liftM_of_ok wire.decode_encode,
    Exec.okOr_of_some (Action.changePolicy?_eq_some.mpr haction)]

end ChangePolicy

namespace Recover

/-- The recovery flag is set or cleared. -/
def flagBody (hybridAccount instructionsSysvar : AccountInfo) (wire : ExecuteIntentWire)
    (falconSig : List UInt8) (op : RecoveryOp) (newEd25519 : Pubkey) : Prog Unit := do
  Exec.failIf (newEd25519 ≠ ByteVec.zero 32) .invalidAccountData
  let auth ← authorize P hybridAccount instructionsSysvar wire falconSig
  applyRecovery hybridAccount op newEd25519 auth

/-- The owner is replaced with Falcon alone. -/
def rotateBody (hybridAccount recoveryConfig instructionsSysvar : AccountInfo)
    (wire : ExecuteIntentWire) (falconSig : List UInt8) (newEd25519 : Pubkey) : Prog Unit := do
  let current ← hybridAccount.tryBorrowData HybridAccount.ownerEd25519FromSlice
  Exec.failIf (newEd25519 = current ∨ newEd25519 = ByteVec.zero 32) .invalidAccountData
  let auth ← authorize P hybridAccount instructionsSysvar wire falconSig
  applyRecovery hybridAccount .rotateEd25519 newEd25519 auth
  SocialRecovery.clearPendingBody P hybridAccount.key recoveryConfig

variable {wire : ExecuteIntentWire} {falconSig : List UInt8}
  {hybridAccount instructionsSysvar : AccountInfo} {newEd25519 : Pubkey}

theorem process_flag {op : RecoveryOp} (hop : op ≠ .rotateEd25519)
    (hsig : falconSig.length = falconSignatureLen)
    (haction : wire.action = .recoverAccount op newEd25519)
    (hvault : hybridAccount.isWritable = true) :
    process P [hybridAccount, instructionsSysvar] (wire.encode.toList ++ falconSig) =
      flagBody P hybridAccount instructionsSysvar wire falconSig op newEd25519 := by
  have hwritable : ¬ hybridAccount.isWritable = false := by simp [hvault]
  unfold process processFlag flagBody
  simp only [Exec.failIf_of_not (not_not.mpr (authPayload_length wire hsig)), Exec.pure_bind,
    Exec.liftM_of_ok (splitWireAndFalcon_append wire falconSig),
    Exec.liftM_of_ok wire.decode_encode,
    Exec.okOr_of_some (Action.recoverAccount?_eq_some.mpr haction),
    Exec.liftM_of_ok (twoAccounts_eq_ok.mpr rfl), Exec.failIf_of_not hwritable]
  cases op with
  | enable => rfl
  | disable => rfl
  | rotateEd25519 => exact absurd rfl hop

theorem process_rotate {recoveryConfig : AccountInfo}
    (hsig : falconSig.length = falconSignatureLen)
    (haction : wire.action = .recoverAccount .rotateEd25519 newEd25519)
    (hvault : hybridAccount.isWritable = true) (hconfig : recoveryConfig.isWritable = true) :
    process P [hybridAccount, recoveryConfig, instructionsSysvar]
        (wire.encode.toList ++ falconSig) =
      rotateBody P hybridAccount recoveryConfig instructionsSysvar wire falconSig newEd25519 := by
  have hwritable : ¬ hybridAccount.isWritable = false := by simp [hvault]
  unfold process processRotate rotateBody
  simp only [Exec.failIf_of_not (not_not.mpr (authPayload_length wire hsig)), Exec.pure_bind,
    Exec.liftM_of_ok (splitWireAndFalcon_append wire falconSig),
    Exec.liftM_of_ok wire.decode_encode,
    Exec.okOr_of_some (Action.recoverAccount?_eq_some.mpr haction),
    Exec.liftM_of_ok (threeAccounts_eq_ok.mpr rfl), Exec.failIf_of_not hwritable,
    SocialRecovery.clearPending_writable P hconfig]

end Recover

/-! ### Social recovery -/

namespace SocialRecovery

/-- A guardian and a delay are installed at the payer's expense. -/
def setConfigBody (hybridAccount recoveryConfig payer instructionsSysvar : AccountInfo)
    (wire : ExecuteIntentWire) (falconSig : List UInt8) (guardianEd25519 : Pubkey)
    (delaySlots : UInt64) : Prog Unit := do
  let owner ← hybridAccount.owner
  Exec.failIf (owner ≠ P.programId) .invalidAccountData
  let dataLen ← hybridAccount.dataLen
  Exec.failIf (dataLen ≠ accountDataLen) .invalidAccountData
  let bump ← verifyRecoveryConfigPda P hybridAccount.key recoveryConfig.key
  Exec.failIf (guardianEd25519 = ByteVec.zero 32) .invalidAccountData
  Exec.failIf (delaySlots < 1) .invalidAccountData
  let auth ← authorize P hybridAccount instructionsSysvar wire falconSig
  storeRecoveryConfig P payer recoveryConfig hybridAccount.key bump guardianEd25519 delaySlots
  hybridAccount.updateVault fun account => pure (account.setNonce auth.nextNonce)

/-- The guardian's proposal of a key. -/
def initiateBody (hybridAccount recoveryConfig instructionsSysvar : AccountInfo)
    (newEd25519 : Pubkey) : Prog Unit := do
  let hybridOwner ← hybridAccount.owner
  let configOwner ← recoveryConfig.owner
  Exec.failIf (hybridOwner ≠ P.programId ∨ configOwner ≠ P.programId) .invalidAccountData
  let _ ← verifyRecoveryConfigPda P hybridAccount.key recoveryConfig.key
  Exec.failIf (newEd25519 = ByteVec.zero 32) .invalidAccountData
  let (currentOwner, nonce) ← hybridAccount.tryBorrowData fun data => do
    Res.failIf (data.length ≠ accountDataLen) .invalidAccountData
    let recoveryEnabled ← HybridAccount.recoveryEnabledFromSlice data
    Res.failIf (recoveryEnabled = false) .invalidAccountData
    let currentOwner ← HybridAccount.ownerEd25519FromSlice data
    let nonce ← HybridAccount.nonceFromSlice data
    pure (currentOwner, nonce)
  Exec.failIf (newEd25519 = currentOwner) .invalidAccountData
  let guardian ← recoveryConfig.tryBorrowData RecoveryConfig.guardianFromSlice
  let digest := socialDigest P hybridAccount.key newEd25519 nonce
  let env ← Exec.ask
  verifyEd25519Precompile env.toInvokeContext instructionsSysvar guardian digest
  recoveryConfig.updateConfig fun cfg => do
    Res.failIf (cfg.hasPending = true) .invalidAccountData
    let ready ← Res.okOr (checkedAdd env.slot cfg.delaySlots) .mathOverflow
    pure ((cfg.setPendingNewEd25519 newEd25519).setPendingReadySlot ready, ())

/-- The proposed key is installed once its slot has come. -/
def finalizeBody (hybridAccount recoveryConfig : AccountInfo) : Prog Unit := do
  let hybridOwner ← hybridAccount.owner
  let configOwner ← recoveryConfig.owner
  Exec.failIf (hybridOwner ≠ P.programId ∨ configOwner ≠ P.programId) .invalidAccountData
  let _ ← verifyRecoveryConfigPda P hybridAccount.key recoveryConfig.key
  requireRecoveryEnabled hybridAccount
  let env ← Exec.ask
  let pending ← recoveryConfig.updateConfig fun cfg => do
    Res.failIf (cfg.hasPending = false) .invalidAccountData
    Res.failIf (env.slot < cfg.pendingReadySlot) .intentExpired
    pure (cfg.clearPending, cfg.pendingNewEd25519)
  installPending hybridAccount pending

/-- The owner clears the proposal. -/
def cancelBody (hybridAccount recoveryConfig instructionsSysvar : AccountInfo)
    (wire : ExecuteIntentWire) (falconSig : List UInt8) : Prog Unit := do
  let hybridOwner ← hybridAccount.owner
  let configOwner ← recoveryConfig.owner
  Exec.failIf (hybridOwner ≠ P.programId ∨ configOwner ≠ P.programId) .invalidAccountData
  let _ ← verifyRecoveryConfigPda P hybridAccount.key recoveryConfig.key
  requireRecoveryEnabled hybridAccount
  let auth ← authorize P hybridAccount instructionsSysvar wire falconSig
  recoveryConfig.updateConfig fun cfg => do
    Res.failIf (cfg.hasPending = false) .invalidAccountData
    pure (cfg.clearPending, ())
  hybridAccount.updateVault fun account => pure (account.setNonce auth.nextNonce)

variable {wire : ExecuteIntentWire} {falconSig : List UInt8}
  {hybridAccount recoveryConfig payer systemProgram instructionsSysvar : AccountInfo}

theorem processSetRecoveryConfig_eq_body {guardianEd25519 : Pubkey} {delaySlots : UInt64}
    (hsig : falconSig.length = falconSignatureLen)
    (haction : wire.action = .setRecoveryConfig guardianEd25519 delaySlots)
    (hvault : hybridAccount.isWritable = true) (hconfig : recoveryConfig.isWritable = true)
    (hpayer : payer.isSigner = true) (hsystem : systemProgram.key = systemProgramId) :
    processSetRecoveryConfig P
        [hybridAccount, recoveryConfig, payer, systemProgram, instructionsSysvar]
        (wire.encode.toList ++ falconSig) =
      setConfigBody P hybridAccount recoveryConfig payer instructionsSysvar wire falconSig
        guardianEd25519 delaySlots := by
  have hwritable : ¬ (hybridAccount.isWritable = false ∨ recoveryConfig.isWritable = false) := by
    simp [hvault, hconfig]
  have hsigner : ¬ payer.isSigner = false := by simp [hpayer]
  unfold processSetRecoveryConfig setConfigBody
  simp only [Exec.failIf_of_not (not_not.mpr (authPayload_length wire hsig)),
    Exec.liftM_of_ok (fiveAccounts_eq_ok.mpr rfl), Exec.failIf_of_not hwritable, Exec.pure_bind,
    Exec.failIf_of_not hsigner, Exec.failIf_of_not (not_not.mpr hsystem),
    Exec.liftM_of_ok (splitWireAndFalcon_append wire falconSig),
    Exec.liftM_of_ok wire.decode_encode,
    Exec.okOr_of_some (Action.setRecoveryConfig?_eq_some.mpr haction)]

theorem processInitiateSocialRecovery_eq_body {newEd25519 : Pubkey}
    (hconfig : recoveryConfig.isWritable = true) :
    processInitiateSocialRecovery P [hybridAccount, recoveryConfig, instructionsSysvar]
        newEd25519.toList =
      initiateBody P hybridAccount recoveryConfig instructionsSysvar newEd25519 := by
  have hwritable : ¬ recoveryConfig.isWritable = false := by simp [hconfig]
  have hkey : sliceVec 32 newEd25519.toList 0 = (.ok newEd25519 : DkRes Pubkey) :=
    (sliceVec_whole newEd25519.toList_length).mpr rfl
  unfold processInitiateSocialRecovery initiateBody
  simp only [Exec.failIf_of_not (not_not.mpr newEd25519.toList_length),
    Exec.liftM_of_ok (threeAccounts_eq_ok.mpr rfl), Exec.failIf_of_not hwritable, Exec.pure_bind,
    Exec.liftM_of_ok hkey]

theorem processFinalizeSocialRecovery_eq_body (hvault : hybridAccount.isWritable = true)
    (hconfig : recoveryConfig.isWritable = true) :
    processFinalizeSocialRecovery P [hybridAccount, recoveryConfig] [] =
      finalizeBody P hybridAccount recoveryConfig := by
  have hwritable : ¬ (hybridAccount.isWritable = false ∨ recoveryConfig.isWritable = false) := by
    simp [hvault, hconfig]
  unfold processFinalizeSocialRecovery finalizeBody
  simp only [Exec.failIf_of_not (not_not.mpr (rfl : ([] : List UInt8) = [])),
    Exec.liftM_of_ok (twoAccounts_eq_ok.mpr rfl), Exec.failIf_of_not hwritable, Exec.pure_bind]

theorem processCancelSocialRecovery_eq_body (hsig : falconSig.length = falconSignatureLen)
    (haction : wire.action = .cancelSocialRecovery) (hvault : hybridAccount.isWritable = true)
    (hconfig : recoveryConfig.isWritable = true) :
    processCancelSocialRecovery P [hybridAccount, recoveryConfig, instructionsSysvar]
        (wire.encode.toList ++ falconSig) =
      cancelBody P hybridAccount recoveryConfig instructionsSysvar wire falconSig := by
  have hwritable : ¬ (hybridAccount.isWritable = false ∨ recoveryConfig.isWritable = false) := by
    simp [hvault, hconfig]
  unfold processCancelSocialRecovery cancelBody
  simp only [Exec.failIf_of_not (not_not.mpr (authPayload_length wire hsig)),
    Exec.liftM_of_ok (threeAccounts_eq_ok.mpr rfl), Exec.failIf_of_not hwritable, Exec.pure_bind,
    Exec.liftM_of_ok (splitWireAndFalcon_append wire falconSig),
    Exec.liftM_of_ok wire.decode_encode, Exec.failIf_of_not (not_not.mpr haction)]

end SocialRecovery

/-! ### `Initialize` and the harness -/

namespace Initialize

/-- The payload of its arguments is read back. -/
theorem parse_append {accountIndex : UInt32} {ownerEd25519 : Pubkey} {policy : AuthorizationPolicy}
    {falconWirePubkey : List UInt8} (hkey : falconWirePubkey.length = falconWirePubkeyLen) :
    parse ((u32ToLe accountIndex).toList ++ (ownerEd25519.toList ++
        ([policy.asU8] ++ falconWirePubkey))) =
      .ok { accountIndex, ownerEd25519, policy, falconWirePubkey } := by
  have hindex := (u32ToLe accountIndex).toList_length
  have howner := ownerEd25519.toList_length
  -- the parts lie one behind the other, each at the offset the parser reads it from
  have hread : readVec 4 ([] ++ ((u32ToLe accountIndex).toList ++ (ownerEd25519.toList ++
      ([policy.asU8] ++ falconWirePubkey)))) 0 = u32ToLe accountIndex :=
    readVec_eq_iff.mpr (read_segment rfl hindex)
  have hpolicy : ((u32ToLe accountIndex).toList ++ ownerEd25519.toList).length + 0 = 36 := by
    rw [List.length_append, hindex, howner]
  have hprefix : ((u32ToLe accountIndex).toList ++ (ownerEd25519.toList ++
      [policy.asU8])).length = 37 := by
    rw [List.length_append, List.length_append, hindex, howner, List.length_singleton]
  refine parse_eq_ok.mpr ⟨?_, ?_, ?_, ?_, ?_⟩
  · rw [List.length_append, List.length_append, List.length_append, hindex, howner, hkey,
      List.length_singleton]
    decide
  · exact ((congrArg u32FromLe hread).trans (u32FromLe_u32ToLe accountIndex)).symm
  · exact (readVec_eq_iff.mpr (read_segment hindex howner)).symm
  · rw [← List.append_assoc, ← hpolicy, byteAt_append_right]
    exact AuthorizationPolicy.fromU8_asU8 policy
  · have hkeyRead := @read_segment _ falconWirePubkey _ _ [] hprefix hkey
    rw [List.append_nil, List.append_assoc, List.append_assoc] at hkeyRead
    exact hkeyRead.symm

/-- The creation of the vault at its address. -/
def body (creator hybridAccount : AccountInfo) (args : Args) (bump : UInt8) : Prog Unit := do
  let isEmpty ← hybridAccount.dataIsEmpty
  Exec.failIf (isEmpty = false) .accountAlreadyInitialized
  let falconPublicKeyHash := P.sha256 args.falconWirePubkey
  createPdaAccount P creator hybridAccount args.accountIndex bump
  hybridAccount.tryBorrowMutData fun data => do
    let account ← HybridAccount.initializeWithoutFalconKey data bump args.accountIndex
      args.ownerEd25519 falconPublicKeyHash args.policy
    let prepared ← prepareFalconKey P args.falconWirePubkey
    pure ((account.setPreparedFalconPublicKey prepared).data, ())

theorem process_eq_body {creator hybridAccount systemProgram : AccountInfo} {payload : List UInt8}
    {args : Args} {bump : UInt8} (hparse : parse payload = .ok args)
    (hcreator : creator.isSigner = true) (hsystem : systemProgram.key = systemProgramId)
    (haddress : P.tryFindProgramAddress (pdaSeeds creator.key (u32ToLe args.accountIndex))
      P.programId = some (hybridAccount.key, bump)) :
    process P [creator, hybridAccount, systemProgram] payload =
      body P creator hybridAccount args bump := by
  have hsigner : ¬ creator.isSigner = false := by simp [hcreator]
  unfold process body
  simp only [Exec.liftM_of_ok hparse, Exec.liftM_of_ok (threeAccounts_eq_ok.mpr rfl),
    Exec.failIf_of_not hsigner, Exec.failIf_of_not (not_not.mpr hsystem),
    Exec.liftM_of_ok (verify_eq_ok.mpr haddress), Exec.pure_bind]

end Initialize

/-- The comparison of the reconstructed digest with a given one. -/
def reconstructBody (account : AccountInfo) (wire : ExecuteIntentWire) (expected : Digest) :
    Prog Unit := do
  let (digest, _) ← reconstructAndDigest P account wire
  Exec.failIf (digest.toList ≠ expected.toList) .digestMismatch

theorem processReconstructCanonicalDigest_eq_body {account : AccountInfo}
    {wire : ExecuteIntentWire} {expected : Digest} :
    processReconstructCanonicalDigest P [account] (wire.encode.toList ++ expected.toList) =
      reconstructBody P account wire expected := by
  have hlen : (wire.encode.toList ++ expected.toList).length = 81 := by
    rw [List.length_append, wire.encode.toList_length, expected.toList_length]
  unfold processReconstructCanonicalDigest reconstructBody
  simp only [Exec.failIf_of_not (not_not.mpr hlen), Exec.okOr_of_some (List.head?_cons),
    Exec.okOr_of_some (splitAtChecked_append wire.encode.toList_length), Exec.pure_bind,
    Exec.liftM_of_ok wire.decode_encode, Exec.failIf_of_not (not_not.mpr expected.toList_length)]

end DualKey
