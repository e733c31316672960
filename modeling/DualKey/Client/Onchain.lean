import DualKey.Client.Error
import DualKey.Core.Wire
import DualKey.Runtime.Platform

/-!
# The instruction builders of the client

The client writes the instructions the program parses: a discriminator, a payload of fixed
width, and a list of accounts whose order and privileges depend on the instruction. A builder
refuses an intent for another action and key material of another length, and builds an
instruction from everything else.
-/

namespace DualKey

/-- `AccountMeta::new`: a writable account. -/
def AccountMeta.new (pubkey : Pubkey) (isSigner : Bool) : AccountMeta := ⟨pubkey, isSigner, true⟩

/-- `AccountMeta::new_readonly`. -/
def AccountMeta.newReadonly (pubkey : Pubkey) (isSigner : Bool) : AccountMeta :=
  ⟨pubkey, isSigner, false⟩

namespace Client

def initializeDiscriminator : UInt8 := 0
def executeDiscriminator : UInt8 := 1
def rotateEd25519Discriminator : UInt8 := 2
def rotateFalconDiscriminator : UInt8 := 3
def changePolicyDiscriminator : UInt8 := 4
def recoverAccountDiscriminator : UInt8 := 5
def setRecoveryConfigDiscriminator : UInt8 := 6
def initiateSocialRecoveryDiscriminator : UInt8 := 7
def finalizeSocialRecoveryDiscriminator : UInt8 := 8
def cancelSocialRecoveryDiscriminator : UInt8 := 9
def reconstructDigestDiscriminator : UInt8 := 243

/-- Key material of another length is refused. -/
def checkLength (path : String) (expected : ℕ) (bytes : List UInt8) : ClientRes Unit :=
  if bytes.length ≠ expected then .error (.keyFileLength path expected bytes.length) else .ok ()

theorem checkLength_eq_ok {path : String} {expected : ℕ} {bytes : List UInt8} {u : Unit} :
    checkLength path expected bytes = .ok u ↔ bytes.length = expected := by
  unfold checkLength
  split
  · next hne => exact ⟨fun h => (nomatch h), fun h => absurd h hne⟩
  · next heq => exact ⟨fun _ => not_not.mp heq, fun _ => rfl⟩

/-! ### Addresses -/

variable (P : Platform)

def deriveHybridAccount (programId creator : Pubkey) (accountIndex : UInt32) :
    ClientRes (Pubkey × UInt8) :=
  match P.tryFindProgramAddress (pdaSeeds creator (u32ToLe accountIndex)) programId with
  | some derived => .ok derived
  | none => .error .pdaDerivation

/-! ### `Initialize` -/

def checkPolicy (policy : AuthorizationPolicy) : ClientRes Unit :=
  if policy.isImplemented = false then .error (.policyNotImplemented policy.asU8) else .ok ()

def initializeData (accountIndex : UInt32) (ownerEd25519 : Pubkey) (policy : AuthorizationPolicy)
    (falconWirePubkey : List UInt8) : ClientRes (List UInt8) := do
  checkLength "falcon512.pk" falconWirePubkeyLen falconWirePubkey
  checkPolicy policy
  pure (initializeDiscriminator :: (u32ToLe accountIndex).toList ++ ownerEd25519.toList ++
    [policy.asU8] ++ falconWirePubkey)

/-- The instruction, with the address of the vault and its bump. -/
def initializeInstruction (programId creator : Pubkey) (accountIndex : UInt32)
    (ownerEd25519 : Pubkey) (policy : AuthorizationPolicy) (falconWirePubkey : List UInt8) :
    ClientRes (Instruction × Pubkey × UInt8) := do
  let (hybridAccount, bump) ← deriveHybridAccount P programId creator accountIndex
  let data ← initializeData accountIndex ownerEd25519 policy falconWirePubkey
  pure ({ programId, data,
          accounts := [.new creator true, .new hybridAccount false,
            .newReadonly systemProgramId false] }, hybridAccount, bump)

/-! ### Signed intents -/

/-- The chain domain of a client that was built without a cluster feature. -/
def defaultChainDomain : ByteVec 32 := Cluster.localnet.chainDomain

/-- An intent of the current version, with an explicit chain domain. -/
def signingIntentWithDomain (chainDomain : ByteVec 32) (programId account : Pubkey)
    (nonce expirySlot : UInt64) (action : Action) : AuthorizationIntent where
  version := intentVersion
  chainDomain := chainDomain
  programId := programId
  account := account
  nonce := nonce
  expirySlot := expirySlot
  action := action

def signingIntent (programId account : Pubkey) (nonce expirySlot : UInt64) (action : Action) :
    AuthorizationIntent :=
  signingIntentWithDomain defaultChainDomain programId account nonce expirySlot action

/-- The wire fragment of an intent. -/
def encodeExecuteIntentWire (intent : AuthorizationIntent) : List UInt8 :=
  (ExecuteIntentWire.fromIntent intent).encode.toList

/-- Wire fragment and Falcon signature. -/
def encodeAuthPayload (intent : AuthorizationIntent) (falconSig : List UInt8) :
    ClientRes (List UInt8) := do
  checkLength "falcon signature" falconSignatureLen falconSig
  pure (encodeExecuteIntentWire intent ++ falconSig)

def executeData (intent : AuthorizationIntent) (falconSig : List UInt8) :
    ClientRes (List UInt8) := do
  checkLength "falcon signature" falconSignatureLen falconSig
  pure (executeDiscriminator :: encodeExecuteIntentWire intent ++ falconSig)

theorem encodeAuthPayload_eq_ok {intent : AuthorizationIntent} {falconSig payload : List UInt8} :
    encodeAuthPayload intent falconSig = .ok payload ↔
      falconSig.length = falconSignatureLen ∧
        encodeExecuteIntentWire intent ++ falconSig = payload := by
  simp only [encodeAuthPayload, ClientRes.bind_eq_ok, checkLength_eq_ok, ClientRes.pure_eq_ok,
    exists_const]

theorem executeData_eq_ok {intent : AuthorizationIntent} {falconSig data : List UInt8} :
    executeData intent falconSig = .ok data ↔
      falconSig.length = falconSignatureLen ∧
        executeDiscriminator :: (encodeExecuteIntentWire intent ++ falconSig) = data := by
  simp only [executeData, ClientRes.bind_eq_ok, checkLength_eq_ok, ClientRes.pure_eq_ok,
    exists_const, List.cons_append]

/-- `Execute` for a transfer of lamports. -/
def executeInstruction (programId hybridAccount : Pubkey) (intent : AuthorizationIntent)
    (falconSig : List UInt8) : ClientRes Instruction := do
  let recipient ← match intent.action with
    | .transferSol recipient _ => (.ok recipient : ClientRes Pubkey)
    | _ => .error (.intentFormat "execute"
        ("Execute builder only accepts TransferSol; " ++
          "use execute_transfer_spl_instruction for SPL"))
  let data ← executeData intent falconSig
  pure { programId, data,
         accounts := [.new hybridAccount false, .new recipient false,
           .newReadonly instructionsSysvarId false] }

/-- `Execute` for a transfer of tokens of the given token program. -/
def executeTransferSplInstructionWithProgram
    (programId hybridAccount creator sourceToken mint tokenProgram : Pubkey)
    (intent : AuthorizationIntent) (falconSig : List UInt8) : ClientRes Instruction := do
  let destination ← match intent.action with
    | .transferSpl destination _ => (.ok destination : ClientRes Pubkey)
    | _ => .error (.intentFormat "execute_transfer_spl" "intent action must be TransferSpl")
  let data ← executeData intent falconSig
  pure { programId, data,
         accounts := [.new hybridAccount false, .newReadonly creator false,
           .new sourceToken false, .newReadonly mint false, .new destination false,
           .newReadonly tokenProgram false, .newReadonly instructionsSysvarId false] }

/-- `Execute` for a transfer of classic SPL tokens. -/
def executeTransferSplInstruction (programId hybridAccount creator sourceToken mint : Pubkey)
    (intent : AuthorizationIntent) (falconSig : List UInt8) : ClientRes Instruction :=
  executeTransferSplInstructionWithProgram programId hybridAccount creator sourceToken mint
    tokenProgramId intent falconSig

def rotateEd25519Instruction (programId hybridAccount recoveryConfig : Pubkey)
    (intent : AuthorizationIntent) (falconSig : List UInt8) : ClientRes Instruction := do
  match intent.action with
  | .rotateEd25519Key _ => (.ok () : ClientRes Unit)
  | _ => .error (.intentFormat "rotate_ed25519" "intent action must be RotateEd25519Key")
  let payload ← encodeAuthPayload intent falconSig
  pure { programId, data := rotateEd25519Discriminator :: payload,
         accounts := [.new hybridAccount false, .new recoveryConfig false,
           .newReadonly instructionsSysvarId false] }

/-- The payload carries the new wire key and its proof of possession as well. -/
def rotateFalconInstruction (programId hybridAccount : Pubkey) (intent : AuthorizationIntent)
    (falconAuthSig newWirePubkey falconPopSig : List UInt8) : ClientRes Instruction := do
  match intent.action with
  | .rotateFalconKey _ => (.ok () : ClientRes Unit)
  | _ => .error (.intentFormat "rotate_falcon" "intent action must be RotateFalconKey")
  checkLength "falcon auth signature" falconSignatureLen falconAuthSig
  checkLength "falcon512.pk" falconWirePubkeyLen newWirePubkey
  checkLength "falcon pop signature" falconSignatureLen falconPopSig
  pure { programId,
         data := rotateFalconDiscriminator :: encodeExecuteIntentWire intent ++ falconAuthSig ++
           newWirePubkey ++ falconPopSig
         accounts := [.new hybridAccount false, .newReadonly instructionsSysvarId false] }

def changePolicyInstruction (programId hybridAccount : Pubkey) (intent : AuthorizationIntent)
    (falconSig : List UInt8) : ClientRes Instruction := do
  match intent.action with
  | .changePolicy _ _ => (.ok () : ClientRes Unit)
  | _ => .error (.intentFormat "change_policy" "intent action must be ChangePolicy")
  let payload ← encodeAuthPayload intent falconSig
  pure { programId, data := changePolicyDiscriminator :: payload,
         accounts := [.new hybridAccount false, .newReadonly instructionsSysvarId false] }

/-- The accounts of a recovery operation. The recovery config goes along only with a rotation,
which requires it. -/
def recoverAccounts (hybridAccount : Pubkey) (op : RecoveryOp) (recoveryConfig : Option Pubkey) :
    ClientRes (List AccountMeta) :=
  match op with
  | .rotateEd25519 =>
    match recoveryConfig with
    | some recovery => .ok [.new hybridAccount false, .new recovery false,
        .newReadonly instructionsSysvarId false]
    | none => .error (.intentFormat "recovery_config"
        "RecoverAccount RotateEd25519 requires recovery_config PDA")
  | .enable | .disable => .ok [.new hybridAccount false, .newReadonly instructionsSysvarId false]

def recoverAccountInstruction (programId hybridAccount : Pubkey) (intent : AuthorizationIntent)
    (falconSig : List UInt8) (recoveryConfig : Option Pubkey) : ClientRes Instruction := do
  let op ← match intent.action with
    | .recoverAccount op _ => (.ok op : ClientRes RecoveryOp)
    | _ => .error (.intentFormat "recover_account" "intent action must be RecoverAccount")
  let payload ← encodeAuthPayload intent falconSig
  let accounts ← recoverAccounts hybridAccount op recoveryConfig
  pure { programId, data := recoverAccountDiscriminator :: payload, accounts }

/-! ### Social recovery -/

def deriveRecoveryConfig (programId hybridAccount : Pubkey) : ClientRes (Pubkey × UInt8) :=
  match P.tryFindProgramAddress (recoveryPdaSeeds hybridAccount) programId with
  | some derived => .ok derived
  | none => .error .pdaDerivation

def setRecoveryConfigInstruction (programId hybridAccount recoveryConfig payer : Pubkey)
    (intent : AuthorizationIntent) (falconSig : List UInt8) : ClientRes Instruction := do
  match intent.action with
  | .setRecoveryConfig _ _ => (.ok () : ClientRes Unit)
  | _ => .error (.intentFormat "set_recovery_config" "intent action must be SetRecoveryConfig")
  let payload ← encodeAuthPayload intent falconSig
  pure { programId, data := setRecoveryConfigDiscriminator :: payload,
         accounts := [.new hybridAccount false, .new recoveryConfig false, .new payer true,
           .newReadonly systemProgramId false, .newReadonly instructionsSysvarId false] }

/-- The guardian signs nothing but the precompile message, so no intent goes along. -/
def initiateSocialRecoveryInstruction (programId hybridAccount recoveryConfig newEd25519 : Pubkey) :
    Instruction where
  programId := programId
  accounts := [.newReadonly hybridAccount false, .new recoveryConfig false,
    .newReadonly instructionsSysvarId false]
  data := initiateSocialRecoveryDiscriminator :: newEd25519.toList

def finalizeSocialRecoveryInstruction (programId hybridAccount recoveryConfig : Pubkey) :
    Instruction where
  programId := programId
  accounts := [.new hybridAccount false, .new recoveryConfig false]
  data := [finalizeSocialRecoveryDiscriminator]

def cancelSocialRecoveryInstruction (programId hybridAccount recoveryConfig : Pubkey)
    (intent : AuthorizationIntent) (falconSig : List UInt8) : ClientRes Instruction := do
  match intent.action with
  | .cancelSocialRecovery => (.ok () : ClientRes Unit)
  | _ => .error (.intentFormat "cancel_social_recovery"
      "intent action must be CancelSocialRecovery")
  let payload ← encodeAuthPayload intent falconSig
  pure { programId, data := cancelSocialRecoveryDiscriminator :: payload,
         accounts := [.new hybridAccount false, .new recoveryConfig false,
           .newReadonly instructionsSysvarId false] }

/-- The harness that compares the reconstructed digest with the client's. -/
def reconstructDigestInstruction (programId hybridAccount : Pubkey) (intent : AuthorizationIntent)
    (expectedDigest : Digest) : Instruction where
  programId := programId
  accounts := [.newReadonly hybridAccount false]
  data := reconstructDigestDiscriminator :: encodeExecuteIntentWire intent ++ expectedDigest.toList

/-! ### What the builders return -/

section Built

variable {P} {programId hybridAccount : Pubkey} {intent : AuthorizationIntent}
  {falconSig : List UInt8} {ix : Instruction}

/-- Instruction data of a discriminator, an intent and one Falcon signature. -/
def signedData (discriminator : UInt8) (intent : AuthorizationIntent) (falconSig : List UInt8) :
    List UInt8 :=
  discriminator :: (encodeExecuteIntentWire intent ++ falconSig)

theorem length_signedData {discriminator : UInt8} (h : falconSig.length = falconSignatureLen) :
    (signedData discriminator intent falconSig).length = 716 := by
  rw [signedData, List.length_cons, List.length_append, h, encodeExecuteIntentWire,
    List.Vector.toList_length]
  rfl

theorem initializeInstruction_ok {creator owner hybrid : Pubkey} {index : UInt32} {bump : UInt8}
    {policy : AuthorizationPolicy} {wireKey : List UInt8}
    (h : initializeInstruction P programId creator index owner policy wireKey =
      .ok (ix, hybrid, bump)) :
    P.tryFindProgramAddress (pdaSeeds creator (u32ToLe index)) programId = some (hybrid, bump) ∧
    wireKey.length = falconWirePubkeyLen ∧
    ix = { programId
           accounts := [.new creator true, .new hybrid false, .newReadonly systemProgramId false]
           data := initializeDiscriminator :: (u32ToLe index).toList ++ owner.toList ++
             [policy.asU8] ++ wireKey } := by
  simp only [initializeInstruction, deriveHybridAccount, initializeData, ClientRes.bind_eq_ok,
    ClientRes.pure_eq_ok, checkLength_eq_ok, Prod.exists, Prod.mk.injEq] at h
  obtain ⟨hybrid', bump', hfind, _, ⟨_, hlen, _, -, rfl⟩, rfl, rfl, rfl⟩ := h
  split at hfind
  · next hfound =>
    cases hfind
    exact ⟨hfound, hlen, rfl⟩
  · cases hfind

theorem executeInstruction_ok
    (h : executeInstruction programId hybridAccount intent falconSig = .ok ix) :
    falconSig.length = falconSignatureLen ∧ ∃ recipient lamports,
      intent.action = .transferSol recipient lamports ∧
      ix = { programId, data := signedData executeDiscriminator intent falconSig
             accounts := [.new hybridAccount false, .new recipient false,
               .newReadonly instructionsSysvarId false] } := by
  unfold executeInstruction at h
  split at h
  · next recipient lamports haction =>
    simp only [ClientRes.bind_eq_ok, executeData_eq_ok, ClientRes.pure_eq_ok] at h
    obtain ⟨_, ⟨⟩, _, ⟨hsig, rfl⟩, rfl⟩ := h
    exact ⟨hsig, recipient, lamports, haction, rfl⟩
  · simp [ClientRes.bind_eq_ok] at h

theorem executeTransferSplInstructionWithProgram_ok
    {creator sourceToken mint tokenProgram : Pubkey}
    (h : executeTransferSplInstructionWithProgram programId hybridAccount creator sourceToken mint
      tokenProgram intent falconSig = .ok ix) :
    falconSig.length = falconSignatureLen ∧ ∃ destination amount,
      intent.action = .transferSpl destination amount ∧
      ix = { programId, data := signedData executeDiscriminator intent falconSig
             accounts := [.new hybridAccount false, .newReadonly creator false,
               .new sourceToken false, .newReadonly mint false, .new destination false,
               .newReadonly tokenProgram false, .newReadonly instructionsSysvarId false] } := by
  unfold executeTransferSplInstructionWithProgram at h
  split at h
  · next destination amount haction =>
    simp only [ClientRes.bind_eq_ok, executeData_eq_ok, ClientRes.pure_eq_ok] at h
    obtain ⟨_, ⟨⟩, _, ⟨hsig, rfl⟩, rfl⟩ := h
    exact ⟨hsig, destination, amount, haction, rfl⟩
  · simp [ClientRes.bind_eq_ok] at h

theorem rotateEd25519Instruction_ok {recoveryConfig : Pubkey}
    (h : rotateEd25519Instruction programId hybridAccount recoveryConfig intent falconSig =
      .ok ix) :
    falconSig.length = falconSignatureLen ∧
      ix = { programId, data := signedData rotateEd25519Discriminator intent falconSig
             accounts := [.new hybridAccount false, .new recoveryConfig false,
               .newReadonly instructionsSysvarId false] } := by
  unfold rotateEd25519Instruction at h
  split at h
  · simp only [ClientRes.bind_eq_ok, encodeAuthPayload_eq_ok, ClientRes.pure_eq_ok] at h
    obtain ⟨_, ⟨⟩, _, ⟨hsig, rfl⟩, rfl⟩ := h
    exact ⟨hsig, rfl⟩
  · simp [ClientRes.bind_eq_ok] at h

theorem rotateFalconInstruction_ok {falconAuthSig newWirePubkey falconPopSig : List UInt8}
    (h : rotateFalconInstruction programId hybridAccount intent falconAuthSig newWirePubkey
      falconPopSig = .ok ix) :
    falconAuthSig.length = falconSignatureLen ∧ newWirePubkey.length = falconWirePubkeyLen ∧
      falconPopSig.length = falconSignatureLen ∧
      ix = { programId
             data := rotateFalconDiscriminator :: (encodeExecuteIntentWire intent ++
               (falconAuthSig ++ (newWirePubkey ++ falconPopSig)))
             accounts := [.new hybridAccount false, .newReadonly instructionsSysvarId false] } := by
  unfold rotateFalconInstruction at h
  split at h
  · simp only [ClientRes.bind_eq_ok, checkLength_eq_ok, ClientRes.pure_eq_ok] at h
    obtain ⟨_, ⟨⟩, _, hauth, _, hkey, _, hpop, rfl⟩ := h
    refine ⟨hauth, hkey, hpop, ?_⟩
    rw [List.cons_append, List.cons_append, List.cons_append, List.append_assoc,
      List.append_assoc]
  · simp [ClientRes.bind_eq_ok] at h

theorem changePolicyInstruction_ok
    (h : changePolicyInstruction programId hybridAccount intent falconSig = .ok ix) :
    falconSig.length = falconSignatureLen ∧
      ix = { programId, data := signedData changePolicyDiscriminator intent falconSig
             accounts := [.new hybridAccount false, .newReadonly instructionsSysvarId false] } := by
  unfold changePolicyInstruction at h
  split at h
  · simp only [ClientRes.bind_eq_ok, encodeAuthPayload_eq_ok, ClientRes.pure_eq_ok] at h
    obtain ⟨_, ⟨⟩, _, ⟨hsig, rfl⟩, rfl⟩ := h
    exact ⟨hsig, rfl⟩
  · simp [ClientRes.bind_eq_ok] at h

theorem recoverAccountInstruction_ok {recoveryConfig : Option Pubkey}
    (h : recoverAccountInstruction programId hybridAccount intent falconSig recoveryConfig =
      .ok ix) :
    falconSig.length = falconSignatureLen ∧ ∃ op newEd25519 accounts,
      intent.action = .recoverAccount op newEd25519 ∧
      recoverAccounts hybridAccount op recoveryConfig = .ok accounts ∧
      ix = { programId, data := signedData recoverAccountDiscriminator intent falconSig,
             accounts } := by
  unfold recoverAccountInstruction at h
  split at h
  · next op newEd25519 haction =>
    simp only [ClientRes.bind_eq_ok, encodeAuthPayload_eq_ok, ClientRes.pure_eq_ok] at h
    obtain ⟨_, ⟨⟩, _, ⟨hsig, rfl⟩, accounts, haccounts, rfl⟩ := h
    exact ⟨hsig, op, newEd25519, accounts, haction, haccounts, rfl⟩
  · simp [ClientRes.bind_eq_ok] at h

theorem setRecoveryConfigInstruction_ok {recoveryConfig payer : Pubkey}
    (h : setRecoveryConfigInstruction programId hybridAccount recoveryConfig payer intent
      falconSig = .ok ix) :
    falconSig.length = falconSignatureLen ∧
      ix = { programId, data := signedData setRecoveryConfigDiscriminator intent falconSig
             accounts := [.new hybridAccount false, .new recoveryConfig false, .new payer true,
               .newReadonly systemProgramId false,
               .newReadonly instructionsSysvarId false] } := by
  unfold setRecoveryConfigInstruction at h
  split at h
  · simp only [ClientRes.bind_eq_ok, encodeAuthPayload_eq_ok, ClientRes.pure_eq_ok] at h
    obtain ⟨_, ⟨⟩, _, ⟨hsig, rfl⟩, rfl⟩ := h
    exact ⟨hsig, rfl⟩
  · simp [ClientRes.bind_eq_ok] at h

theorem cancelSocialRecoveryInstruction_ok {recoveryConfig : Pubkey}
    (h : cancelSocialRecoveryInstruction programId hybridAccount recoveryConfig intent falconSig =
      .ok ix) :
    falconSig.length = falconSignatureLen ∧
      ix = { programId, data := signedData cancelSocialRecoveryDiscriminator intent falconSig
             accounts := [.new hybridAccount false, .new recoveryConfig false,
               .newReadonly instructionsSysvarId false] } := by
  unfold cancelSocialRecoveryInstruction at h
  split at h
  · simp only [ClientRes.bind_eq_ok, encodeAuthPayload_eq_ok, ClientRes.pure_eq_ok] at h
    obtain ⟨_, ⟨⟩, _, ⟨hsig, rfl⟩, rfl⟩ := h
    exact ⟨hsig, rfl⟩
  · simp [ClientRes.bind_eq_ok] at h

end Built

end Client

end DualKey
