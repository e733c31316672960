import DualKey.Client.Framing
import DualKey.Client.Onchain
import DualKey.System.Replay

/-!
# Client builders and program parsers agree

The client and the program are written separately and share only constants. A `Call` is a
call of one of the builders with its arguments; what it should lead to is the second half of
the handler of its name, on the accounts it lists and the parts it was given (`Call.Runs`).
Every instruction a builder returns does lead there: the program takes it to that handler,
whose framing checks all pass and whose parser returns the parts unchanged. The digest the
program checks signatures against is then made of the bytes the client signed.
-/

namespace DualKey

open Client

/-- The runtime hands an account over with at least the privileges its entry asks for; another
instruction of the transaction may have asked for more. -/
structure AccountMeta.GrantedTo (entry : AccountMeta) (info : AccountInfo) : Prop where
  key : info.key = entry.pubkey
  signer : entry.isSigner = true → info.isSigner = true
  writable : entry.isWritable = true → info.isWritable = true

/-- The accounts the program receives for an instruction. -/
def Instruction.Presented (ix : Instruction) (accounts : List AccountInfo) : Prop :=
  List.Forall₂ AccountMeta.GrantedTo ix.accounts accounts

namespace Client

/-! ### Addresses -/

section Addresses

variable {P : Platform} {k : Pubkey} {bump : UInt8}

/-- The client derives the vault address that passes the program's check. -/
theorem deriveHybridAccount_eq_ok {creator : Pubkey} {accountIndex : UInt32} :
    deriveHybridAccount P P.programId creator accountIndex = .ok (k, bump) ↔
      Pda.verify P creator accountIndex k = .ok bump := by
  rw [Initialize.verify_eq_ok, deriveHybridAccount]
  split <;> simp_all

/-- The same for the address of a recovery config. -/
theorem deriveRecoveryConfig_eq_ok {hybridAccount : Pubkey} :
    deriveRecoveryConfig P P.programId hybridAccount = .ok (k, bump) ↔
      SocialRecovery.verifyRecoveryConfigPda P hybridAccount k = .ok bump := by
  rw [SocialRecovery.verifyRecoveryConfigPda_eq_ok, deriveRecoveryConfig,
    SocialRecovery.IsRecoveryAddress]
  split <;> simp_all

end Addresses

/-! ### Calls -/

/-- A call of an instruction builder: its arguments besides the program id. -/
inductive Call where
  | initializeAccount (creator : Pubkey) (accountIndex : UInt32) (ownerEd25519 : Pubkey)
    (policy : AuthorizationPolicy) (falconWirePubkey : List UInt8)
  | execute (hybridAccount : Pubkey) (intent : AuthorizationIntent) (falconSig : List UInt8)
  | executeTransferSplWithProgram (hybridAccount creator sourceToken mint tokenProgram : Pubkey)
    (intent : AuthorizationIntent) (falconSig : List UInt8)
  | executeTransferSpl (hybridAccount creator sourceToken mint : Pubkey)
    (intent : AuthorizationIntent) (falconSig : List UInt8)
  | rotateEd25519 (hybridAccount recoveryConfig : Pubkey) (intent : AuthorizationIntent)
    (falconSig : List UInt8)
  | rotateFalcon (hybridAccount : Pubkey) (intent : AuthorizationIntent)
    (falconAuthSig newWirePubkey falconPopSig : List UInt8)
  | changePolicy (hybridAccount : Pubkey) (intent : AuthorizationIntent) (falconSig : List UInt8)
  | recoverAccount (hybridAccount : Pubkey) (intent : AuthorizationIntent) (falconSig : List UInt8)
    (recoveryConfig : Option Pubkey)
  | setRecoveryConfig (hybridAccount recoveryConfig payer : Pubkey) (intent : AuthorizationIntent)
    (falconSig : List UInt8)
  | initiateSocialRecovery (hybridAccount recoveryConfig newEd25519 : Pubkey)
  | finalizeSocialRecovery (hybridAccount recoveryConfig : Pubkey)
  | cancelSocialRecovery (hybridAccount recoveryConfig : Pubkey) (intent : AuthorizationIntent)
    (falconSig : List UInt8)
  | reconstructDigest (hybridAccount : Pubkey) (intent : AuthorizationIntent)
    (expectedDigest : Digest)

namespace Call

/-- The instruction of a call. -/
def build (P : Platform) (programId : Pubkey) : Call → ClientRes Instruction
  | initializeAccount creator accountIndex ownerEd25519 policy falconWirePubkey => do
    let (instruction, _, _) ← initializeInstruction P programId creator accountIndex ownerEd25519
      policy falconWirePubkey
    pure instruction
  | execute hybridAccount intent falconSig =>
    executeInstruction programId hybridAccount intent falconSig
  | executeTransferSplWithProgram hybridAccount creator sourceToken mint tokenProgram intent
      falconSig =>
    executeTransferSplInstructionWithProgram programId hybridAccount creator sourceToken mint
      tokenProgram intent falconSig
  | executeTransferSpl hybridAccount creator sourceToken mint intent falconSig =>
    executeTransferSplInstruction programId hybridAccount creator sourceToken mint intent falconSig
  | rotateEd25519 hybridAccount recoveryConfig intent falconSig =>
    rotateEd25519Instruction programId hybridAccount recoveryConfig intent falconSig
  | rotateFalcon hybridAccount intent falconAuthSig newWirePubkey falconPopSig =>
    rotateFalconInstruction programId hybridAccount intent falconAuthSig newWirePubkey falconPopSig
  | changePolicy hybridAccount intent falconSig =>
    changePolicyInstruction programId hybridAccount intent falconSig
  | recoverAccount hybridAccount intent falconSig recoveryConfig =>
    recoverAccountInstruction programId hybridAccount intent falconSig recoveryConfig
  | setRecoveryConfig hybridAccount recoveryConfig payer intent falconSig =>
    setRecoveryConfigInstruction programId hybridAccount recoveryConfig payer intent falconSig
  | initiateSocialRecovery hybridAccount recoveryConfig newEd25519 =>
    .ok (initiateSocialRecoveryInstruction programId hybridAccount recoveryConfig newEd25519)
  | finalizeSocialRecovery hybridAccount recoveryConfig =>
    .ok (finalizeSocialRecoveryInstruction programId hybridAccount recoveryConfig)
  | cancelSocialRecovery hybridAccount recoveryConfig intent falconSig =>
    cancelSocialRecoveryInstruction programId hybridAccount recoveryConfig intent falconSig
  | reconstructDigest hybridAccount intent expectedDigest =>
    .ok (reconstructDigestInstruction programId hybridAccount intent expectedDigest)

/-- The instruction of the program that has the name of the builder. -/
def instruction : Call → DualKeyInstruction
  | initializeAccount .. => .initializeAccount
  | execute .. => .execute
  | executeTransferSplWithProgram .. => .execute
  | executeTransferSpl .. => .execute
  | rotateEd25519 .. => .rotateEd25519Key
  | rotateFalcon .. => .rotateFalconKey
  | changePolicy .. => .changePolicy
  | recoverAccount .. => .recoverAccount
  | setRecoveryConfig .. => .setRecoveryConfig
  | initiateSocialRecovery .. => .initiateSocialRecovery
  | finalizeSocialRecovery .. => .finalizeSocialRecovery
  | cancelSocialRecovery .. => .cancelSocialRecovery
  | reconstructDigest .. => .reconstructCanonicalDigest

/-- The vault and the intent of a call that carries one. -/
def signed? : Call → Option (Pubkey × AuthorizationIntent)
  | initializeAccount .. => none
  | execute hybridAccount intent _ => some (hybridAccount, intent)
  | executeTransferSplWithProgram hybridAccount _ _ _ _ intent _ => some (hybridAccount, intent)
  | executeTransferSpl hybridAccount _ _ _ intent _ => some (hybridAccount, intent)
  | rotateEd25519 hybridAccount _ intent _ => some (hybridAccount, intent)
  | rotateFalcon hybridAccount intent _ _ _ => some (hybridAccount, intent)
  | changePolicy hybridAccount intent _ => some (hybridAccount, intent)
  | recoverAccount hybridAccount intent _ _ => some (hybridAccount, intent)
  | setRecoveryConfig hybridAccount _ _ intent _ => some (hybridAccount, intent)
  | initiateSocialRecovery .. => none
  | finalizeSocialRecovery .. => none
  | cancelSocialRecovery hybridAccount _ intent _ => some (hybridAccount, intent)
  | reconstructDigest hybridAccount intent _ => some (hybridAccount, intent)

variable (P : Platform)

/-- What a call leads to on the accounts the program receives: the second half of a handler,
with the accounts in their roles and the parts of the call. -/
inductive Runs : Call → List AccountInfo → Prog Unit → Prop where
  | initializeAccount {creator ownerEd25519 : Pubkey} {accountIndex : UInt32}
    {policy : AuthorizationPolicy} {falconWirePubkey : List UInt8}
    {payer vault systemProgram : AccountInfo} {bump : UInt8} (hcreator : payer.key = creator)
    (hvault : P.tryFindProgramAddress (pdaSeeds creator (u32ToLe accountIndex)) P.programId =
      some (vault.key, bump)) (hsystem : systemProgram.key = systemProgramId) :
    Runs (.initializeAccount creator accountIndex ownerEd25519 policy falconWirePubkey)
      [payer, vault, systemProgram]
      (Initialize.body P payer vault { accountIndex, ownerEd25519, policy, falconWirePubkey } bump)
  | execute {intent : AuthorizationIntent} {falconSig : List UInt8}
    {vault recipient sysvar : AccountInfo} {lamports : UInt64}
    (haction : intent.action = .transferSol recipient.key lamports)
    (hsysvar : sysvar.key = instructionsSysvarId) :
    Runs (.execute vault.key intent falconSig) [vault, recipient, sysvar]
      (Execute.transferSolBody P vault recipient sysvar (.fromIntent intent) falconSig lamports)
  | executeTransferSplWithProgram {intent : AuthorizationIntent} {falconSig : List UInt8}
    {vault creator source mint destination tokenProgram sysvar : AccountInfo} {amount : UInt64}
    (haction : intent.action = .transferSpl destination.key amount)
    (hsysvar : sysvar.key = instructionsSysvarId) :
    Runs (.executeTransferSplWithProgram vault.key creator.key source.key mint.key
        tokenProgram.key intent falconSig)
      [vault, creator, source, mint, destination, tokenProgram, sysvar]
      (Execute.transferSplBody P vault creator source mint destination tokenProgram sysvar
        (.fromIntent intent) falconSig amount)
  | executeTransferSpl {intent : AuthorizationIntent} {falconSig : List UInt8}
    {vault creator source mint destination tokenProgram sysvar : AccountInfo} {amount : UInt64}
    (haction : intent.action = .transferSpl destination.key amount)
    (hprogram : tokenProgram.key = tokenProgramId) (hsysvar : sysvar.key = instructionsSysvarId) :
    Runs (.executeTransferSpl vault.key creator.key source.key mint.key intent falconSig)
      [vault, creator, source, mint, destination, tokenProgram, sysvar]
      (Execute.transferSplBody P vault creator source mint destination tokenProgram sysvar
        (.fromIntent intent) falconSig amount)
  | rotateEd25519 {intent : AuthorizationIntent} {falconSig : List UInt8}
    {vault config sysvar : AccountInfo} {newPubkey : Pubkey}
    (haction : intent.action = .rotateEd25519Key newPubkey)
    (hsysvar : sysvar.key = instructionsSysvarId) :
    Runs (.rotateEd25519 vault.key config.key intent falconSig) [vault, config, sysvar]
      (Rotate.ed25519Body P vault config sysvar (.fromIntent intent) falconSig newPubkey)
  | rotateFalcon {intent : AuthorizationIntent} {falconAuth newWirePk falconPop : List UInt8}
    {vault sysvar : AccountInfo} {newPubkeyHash : Digest}
    (haction : intent.action = .rotateFalconKey newPubkeyHash)
    (hsysvar : sysvar.key = instructionsSysvarId) :
    Runs (.rotateFalcon vault.key intent falconAuth newWirePk falconPop) [vault, sysvar]
      (Rotate.falconBody P vault sysvar (.fromIntent intent) falconAuth newWirePk falconPop
        newPubkeyHash)
  | changePolicy {intent : AuthorizationIntent} {falconSig : List UInt8}
    {vault sysvar : AccountInfo} {newPolicy : UInt8} {threshold : UInt64}
    (haction : intent.action = .changePolicy newPolicy threshold)
    (hsysvar : sysvar.key = instructionsSysvarId) :
    Runs (.changePolicy vault.key intent falconSig) [vault, sysvar]
      (ChangePolicy.body P vault sysvar (.fromIntent intent) falconSig newPolicy threshold)
  | recoverFlag {intent : AuthorizationIntent} {falconSig : List UInt8}
    {recoveryConfig : Option Pubkey} {vault sysvar : AccountInfo} {op : RecoveryOp}
    {newEd25519 : Pubkey} (hop : op ≠ .rotateEd25519)
    (haction : intent.action = .recoverAccount op newEd25519)
    (hsysvar : sysvar.key = instructionsSysvarId) :
    Runs (.recoverAccount vault.key intent falconSig recoveryConfig) [vault, sysvar]
      (Recover.flagBody P vault sysvar (.fromIntent intent) falconSig op newEd25519)
  | recoverRotate {intent : AuthorizationIntent} {falconSig : List UInt8}
    {vault config sysvar : AccountInfo} {newEd25519 : Pubkey}
    (haction : intent.action = .recoverAccount .rotateEd25519 newEd25519)
    (hsysvar : sysvar.key = instructionsSysvarId) :
    Runs (.recoverAccount vault.key intent falconSig (some config.key)) [vault, config, sysvar]
      (Recover.rotateBody P vault config sysvar (.fromIntent intent) falconSig newEd25519)
  | setRecoveryConfig {intent : AuthorizationIntent} {falconSig : List UInt8}
    {vault config payer systemProgram sysvar : AccountInfo} {guardian : Pubkey} {delay : UInt64}
    (haction : intent.action = .setRecoveryConfig guardian delay)
    (hsystem : systemProgram.key = systemProgramId)
    (hsysvar : sysvar.key = instructionsSysvarId) :
    Runs (.setRecoveryConfig vault.key config.key payer.key intent falconSig)
      [vault, config, payer, systemProgram, sysvar]
      (SocialRecovery.setConfigBody P vault config payer sysvar (.fromIntent intent) falconSig
        guardian delay)
  | initiateSocialRecovery {vault config sysvar : AccountInfo} {newEd25519 : Pubkey}
    (hsysvar : sysvar.key = instructionsSysvarId) :
    Runs (.initiateSocialRecovery vault.key config.key newEd25519) [vault, config, sysvar]
      (SocialRecovery.initiateBody P vault config sysvar newEd25519)
  | finalizeSocialRecovery {vault config : AccountInfo} :
    Runs (.finalizeSocialRecovery vault.key config.key) [vault, config]
      (SocialRecovery.finalizeBody P vault config)
  | cancelSocialRecovery {intent : AuthorizationIntent} {falconSig : List UInt8}
    {vault config sysvar : AccountInfo} (haction : intent.action = .cancelSocialRecovery)
    (hsysvar : sysvar.key = instructionsSysvarId) :
    Runs (.cancelSocialRecovery vault.key config.key intent falconSig) [vault, config, sysvar]
      (SocialRecovery.cancelBody P vault config sysvar (.fromIntent intent) falconSig)
  | reconstructDigest {intent : AuthorizationIntent} {expectedDigest : Digest}
    {vault : AccountInfo} :
    Runs (.reconstructDigest vault.key intent expectedDigest) [vault]
      (reconstructBody P vault (.fromIntent intent) expectedDigest)

variable {P}

/-- The program takes the instruction to the handler of the call, which runs what the call is
to run. -/
def Reaches (c : Call) (ix : Instruction) (accounts : List AccountInfo) : Prop :=
  ix.programId = P.programId ∧ ∃ payload run, ix.data = c.instruction.asU8 :: payload ∧
    c.Runs P accounts run ∧ Processor.handler P c.instruction accounts payload = run

variable {ix : Instruction} {accounts : List AccountInfo} {hybridAccount : Pubkey}
  {intent : AuthorizationIntent} {falconSig : List UInt8}

theorem execute_reaches
    (h : executeInstruction P.programId hybridAccount intent falconSig = .ok ix)
    (hpresented : ix.Presented accounts) :
    Reaches (P := P) (.execute hybridAccount intent falconSig) ix accounts := by
  unfold executeInstruction at h
  split at h
  · next recipient lamports haction =>
    simp only [ClientRes.bind_eq_ok, executeData_eq_ok, ClientRes.pure_eq_ok] at h
    obtain ⟨_, ⟨⟩, _, ⟨hsig, rfl⟩, rfl⟩ := h
    simp only [Instruction.Presented, List.forall₂_cons_left_iff, List.forall₂_nil_left_iff]
      at hpresented
    obtain ⟨vault, _, hvault, ⟨target, _, htarget, ⟨sysvar, _, hsysvar, rfl, rfl⟩, rfl⟩, rfl⟩ :=
      hpresented
    obtain rfl := hvault.key
    obtain rfl := htarget.key
    exact ⟨rfl, _, _, rfl, .execute haction hsysvar.key,
      Execute.process_transferSol P hsig haction (hvault.writable rfl) (htarget.writable rfl)⟩
  · simp [ClientRes.bind_eq_ok] at h

theorem executeTransferSplWithProgram_reaches {creator sourceToken mint tokenProgram : Pubkey}
    (h : executeTransferSplInstructionWithProgram P.programId hybridAccount creator sourceToken mint
      tokenProgram intent falconSig = .ok ix) (hpresented : ix.Presented accounts) :
    Reaches (P := P) (.executeTransferSplWithProgram hybridAccount creator sourceToken mint
      tokenProgram intent falconSig) ix accounts := by
  unfold executeTransferSplInstructionWithProgram at h
  split at h
  · next destination amount haction =>
    simp only [ClientRes.bind_eq_ok, executeData_eq_ok, ClientRes.pure_eq_ok] at h
    obtain ⟨_, ⟨⟩, _, ⟨hsig, rfl⟩, rfl⟩ := h
    simp only [Instruction.Presented, List.forall₂_cons_left_iff, List.forall₂_nil_left_iff]
      at hpresented
    obtain ⟨vault, _, hvault, ⟨creator', _, hcreator, ⟨source, _, hsource, ⟨mint', _, hmint,
      ⟨target, _, htarget, ⟨program, _, hprogram, ⟨sysvar, _, hsysvar, rfl, rfl⟩, rfl⟩, rfl⟩, rfl⟩,
      rfl⟩, rfl⟩, rfl⟩ := hpresented
    obtain rfl := hvault.key
    obtain rfl := hcreator.key
    obtain rfl := hsource.key
    obtain rfl := hmint.key
    obtain rfl := htarget.key
    obtain rfl := hprogram.key
    exact ⟨rfl, _, _, rfl, .executeTransferSplWithProgram haction hsysvar.key,
      Execute.process_transferSpl P hsig haction (hvault.writable rfl) (hsource.writable rfl)
        (htarget.writable rfl)⟩
  · simp [ClientRes.bind_eq_ok] at h

/-- The builder without a token program is that of the classic one. -/
theorem executeTransferSpl_reaches {creator sourceToken mint : Pubkey}
    (h : executeTransferSplInstruction P.programId hybridAccount creator sourceToken mint intent
      falconSig = .ok ix) (hpresented : ix.Presented accounts) :
    Reaches (P := P) (.executeTransferSpl hybridAccount creator sourceToken mint intent falconSig)
      ix accounts := by
  obtain ⟨hprogram, payload, run, hdata, hruns, hrun⟩ :=
    executeTransferSplWithProgram_reaches h hpresented
  refine ⟨hprogram, payload, run, hdata, ?_, hrun⟩
  generalize htoken : tokenProgramId = tokenProgram at hruns
  cases hruns with
  | executeTransferSplWithProgram haction hsysvar =>
    exact .executeTransferSpl haction htoken.symm hsysvar

theorem rotateEd25519_reaches {recoveryConfig : Pubkey}
    (h : rotateEd25519Instruction P.programId hybridAccount recoveryConfig intent falconSig =
      .ok ix) (hpresented : ix.Presented accounts) :
    Reaches (P := P) (.rotateEd25519 hybridAccount recoveryConfig intent falconSig) ix
      accounts := by
  unfold rotateEd25519Instruction at h
  split at h
  · next newPubkey haction =>
    simp only [ClientRes.bind_eq_ok, encodeAuthPayload_eq_ok, ClientRes.pure_eq_ok] at h
    obtain ⟨_, ⟨⟩, _, ⟨hsig, rfl⟩, rfl⟩ := h
    simp only [Instruction.Presented, List.forall₂_cons_left_iff, List.forall₂_nil_left_iff]
      at hpresented
    obtain ⟨vault, _, hvault, ⟨config, _, hconfig, ⟨sysvar, _, hsysvar, rfl, rfl⟩, rfl⟩, rfl⟩ :=
      hpresented
    obtain rfl := hvault.key
    obtain rfl := hconfig.key
    exact ⟨rfl, _, _, rfl, .rotateEd25519 haction hsysvar.key,
      Rotate.processRotateEd25519_eq_body P hsig haction (hvault.writable rfl)
        (hconfig.writable rfl)⟩
  · simp [ClientRes.bind_eq_ok] at h

theorem rotateFalcon_reaches {falconAuthSig newWirePubkey falconPopSig : List UInt8}
    (h : rotateFalconInstruction P.programId hybridAccount intent falconAuthSig newWirePubkey
      falconPopSig = .ok ix) (hpresented : ix.Presented accounts) :
    Reaches (P := P) (.rotateFalcon hybridAccount intent falconAuthSig newWirePubkey falconPopSig)
      ix accounts := by
  unfold rotateFalconInstruction at h
  split at h
  · next newPubkeyHash haction =>
    simp only [ClientRes.bind_eq_ok, checkLength_eq_ok, ClientRes.pure_eq_ok] at h
    obtain ⟨_, ⟨⟩, _, hsig, _, hkey, _, hpop, rfl⟩ := h
    simp only [Instruction.Presented, List.forall₂_cons_left_iff, List.forall₂_nil_left_iff]
      at hpresented
    obtain ⟨vault, _, hvault, ⟨sysvar, _, hsysvar, rfl, rfl⟩, rfl⟩ := hpresented
    obtain rfl := hvault.key
    refine ⟨rfl, _, _, ?_, .rotateFalcon haction hsysvar.key,
      Rotate.processRotateFalcon_eq_body P hsig hkey hpop haction (hvault.writable rfl)⟩
    -- the builder appends to the left, the parser splits from the left
    simp only [List.cons_append, List.append_assoc]
    rfl
  · simp [ClientRes.bind_eq_ok] at h

theorem changePolicy_reaches
    (h : changePolicyInstruction P.programId hybridAccount intent falconSig = .ok ix)
    (hpresented : ix.Presented accounts) :
    Reaches (P := P) (.changePolicy hybridAccount intent falconSig) ix accounts := by
  unfold changePolicyInstruction at h
  split at h
  · next newPolicy threshold haction =>
    simp only [ClientRes.bind_eq_ok, encodeAuthPayload_eq_ok, ClientRes.pure_eq_ok] at h
    obtain ⟨_, ⟨⟩, _, ⟨hsig, rfl⟩, rfl⟩ := h
    simp only [Instruction.Presented, List.forall₂_cons_left_iff, List.forall₂_nil_left_iff]
      at hpresented
    obtain ⟨vault, _, hvault, ⟨sysvar, _, hsysvar, rfl, rfl⟩, rfl⟩ := hpresented
    obtain rfl := hvault.key
    exact ⟨rfl, _, _, rfl, .changePolicy haction hsysvar.key,
      ChangePolicy.process_eq_body P hsig haction (hvault.writable rfl)⟩
  · simp [ClientRes.bind_eq_ok] at h

/-- Recovery goes with the config or without, as the operation requires. -/
theorem recoverAccount_reaches {recoveryConfig : Option Pubkey}
    (h : recoverAccountInstruction P.programId hybridAccount intent falconSig recoveryConfig =
      .ok ix) (hpresented : ix.Presented accounts) :
    Reaches (P := P) (.recoverAccount hybridAccount intent falconSig recoveryConfig) ix
      accounts := by
  unfold recoverAccountInstruction at h
  split at h
  · next op newEd25519 haction =>
    simp only [ClientRes.bind_eq_ok, encodeAuthPayload_eq_ok, ClientRes.pure_eq_ok] at h
    obtain ⟨_, ⟨⟩, _, ⟨hsig, rfl⟩, entries, hentries, rfl⟩ := h
    -- only a rotation lists the recovery config
    by_cases hop : op = .rotateEd25519
    · subst hop
      cases recoveryConfig with
      | none => cases hentries
      | some recovery =>
        cases hentries
        simp only [Instruction.Presented, List.forall₂_cons_left_iff, List.forall₂_nil_left_iff]
          at hpresented
        obtain ⟨vault, _, hvault, ⟨config, _, hconfig, ⟨sysvar, _, hsysvar, rfl, rfl⟩, rfl⟩,
          rfl⟩ := hpresented
        obtain rfl := hvault.key
        obtain rfl := hconfig.key
        exact ⟨rfl, _, _, rfl, .recoverRotate haction hsysvar.key,
          Recover.process_rotate P hsig haction (hvault.writable rfl) (hconfig.writable rfl)⟩
    · have hflag : entries =
            [.new hybridAccount false, .newReadonly instructionsSysvarId false] := by
        cases op with
        | rotateEd25519 => exact absurd rfl hop
        | _ => exact (Except.ok.inj hentries).symm
      subst hflag
      simp only [Instruction.Presented, List.forall₂_cons_left_iff, List.forall₂_nil_left_iff]
        at hpresented
      obtain ⟨vault, _, hvault, ⟨sysvar, _, hsysvar, rfl, rfl⟩, rfl⟩ := hpresented
      obtain rfl := hvault.key
      exact ⟨rfl, _, _, rfl, .recoverFlag hop haction hsysvar.key,
        Recover.process_flag P hop hsig haction (hvault.writable rfl)⟩
  · simp [ClientRes.bind_eq_ok] at h

theorem setRecoveryConfig_reaches {recoveryConfig payer : Pubkey}
    (h : setRecoveryConfigInstruction P.programId hybridAccount recoveryConfig payer intent
      falconSig = .ok ix) (hpresented : ix.Presented accounts) :
    Reaches (P := P) (.setRecoveryConfig hybridAccount recoveryConfig payer intent falconSig) ix
      accounts := by
  unfold setRecoveryConfigInstruction at h
  split at h
  · next guardian delay haction =>
    simp only [ClientRes.bind_eq_ok, encodeAuthPayload_eq_ok, ClientRes.pure_eq_ok] at h
    obtain ⟨_, ⟨⟩, _, ⟨hsig, rfl⟩, rfl⟩ := h
    simp only [Instruction.Presented, List.forall₂_cons_left_iff, List.forall₂_nil_left_iff]
      at hpresented
    obtain ⟨vault, _, hvault, ⟨config, _, hconfig, ⟨payer', _, hpayer, ⟨system, _, hsystem,
      ⟨sysvar, _, hsysvar, rfl, rfl⟩, rfl⟩, rfl⟩, rfl⟩, rfl⟩ := hpresented
    obtain rfl := hvault.key
    obtain rfl := hconfig.key
    obtain rfl := hpayer.key
    exact ⟨rfl, _, _, rfl, .setRecoveryConfig haction hsystem.key hsysvar.key,
      SocialRecovery.processSetRecoveryConfig_eq_body P hsig haction (hvault.writable rfl)
        (hconfig.writable rfl) (hpayer.signer rfl) hsystem.key⟩
  · simp [ClientRes.bind_eq_ok] at h

theorem cancelSocialRecovery_reaches {recoveryConfig : Pubkey}
    (h : cancelSocialRecoveryInstruction P.programId hybridAccount recoveryConfig intent falconSig =
      .ok ix) (hpresented : ix.Presented accounts) :
    Reaches (P := P) (.cancelSocialRecovery hybridAccount recoveryConfig intent falconSig) ix
      accounts := by
  unfold cancelSocialRecoveryInstruction at h
  split at h
  · next haction =>
    simp only [ClientRes.bind_eq_ok, encodeAuthPayload_eq_ok, ClientRes.pure_eq_ok] at h
    obtain ⟨_, ⟨⟩, _, ⟨hsig, rfl⟩, rfl⟩ := h
    simp only [Instruction.Presented, List.forall₂_cons_left_iff, List.forall₂_nil_left_iff]
      at hpresented
    obtain ⟨vault, _, hvault, ⟨config, _, hconfig, ⟨sysvar, _, hsysvar, rfl, rfl⟩, rfl⟩, rfl⟩ :=
      hpresented
    obtain rfl := hvault.key
    obtain rfl := hconfig.key
    exact ⟨rfl, _, _, rfl, .cancelSocialRecovery haction hsysvar.key,
      SocialRecovery.processCancelSocialRecovery_eq_body P hsig haction (hvault.writable rfl)
        (hconfig.writable rfl)⟩
  · simp [ClientRes.bind_eq_ok] at h

/-- The vault of a fresh instruction is at the address the program derives as well. -/
theorem initializeAccount_reaches {creator ownerEd25519 vault : Pubkey} {accountIndex : UInt32}
    {policy : AuthorizationPolicy} {falconWirePubkey : List UInt8} {bump : UInt8}
    (h : initializeInstruction P P.programId creator accountIndex ownerEd25519 policy
      falconWirePubkey = .ok (ix, vault, bump)) (hpresented : ix.Presented accounts) :
    Reaches (P := P) (.initializeAccount creator accountIndex ownerEd25519 policy falconWirePubkey)
      ix accounts := by
  simp only [initializeInstruction, initializeData, ClientRes.bind_eq_ok, checkLength_eq_ok,
    ClientRes.pure_eq_ok, Prod.exists, Prod.mk.injEq, deriveHybridAccount_eq_ok,
    Initialize.verify_eq_ok] at h
  obtain ⟨_, _, hfound, _, ⟨_, hkey, _, -, rfl⟩, rfl, rfl, rfl⟩ := h
  simp only [Instruction.Presented, List.forall₂_cons_left_iff, List.forall₂_nil_left_iff]
    at hpresented
  obtain ⟨payer, _, hpayer, ⟨account, _, haccount, ⟨system, _, hsystem, rfl, rfl⟩, rfl⟩, rfl⟩ :=
    hpresented
  obtain rfl := hpayer.key
  obtain rfl := haccount.key
  refine ⟨rfl, _, _, ?_, .initializeAccount rfl hfound hsystem.key,
    Initialize.process_eq_body P (Initialize.parse_append hkey) (hpayer.signer rfl) hsystem.key
      hfound⟩
  simp only [List.cons_append, List.append_assoc]
  rfl

theorem initiateSocialRecovery_reaches {recoveryConfig newEd25519 : Pubkey}
    (hpresented : (initiateSocialRecoveryInstruction P.programId hybridAccount recoveryConfig
      newEd25519).Presented accounts) :
    Reaches (P := P) (.initiateSocialRecovery hybridAccount recoveryConfig newEd25519)
      (initiateSocialRecoveryInstruction P.programId hybridAccount recoveryConfig newEd25519)
      accounts := by
  simp only [Instruction.Presented, initiateSocialRecoveryInstruction, List.forall₂_cons_left_iff,
    List.forall₂_nil_left_iff] at hpresented
  obtain ⟨vault, _, hvault, ⟨config, _, hconfig, ⟨sysvar, _, hsysvar, rfl, rfl⟩, rfl⟩, rfl⟩ :=
    hpresented
  obtain rfl := hvault.key
  obtain rfl := hconfig.key
  exact ⟨rfl, _, _, rfl, .initiateSocialRecovery hsysvar.key,
    SocialRecovery.processInitiateSocialRecovery_eq_body P (hconfig.writable rfl)⟩

theorem finalizeSocialRecovery_reaches {recoveryConfig : Pubkey}
    (hpresented : (finalizeSocialRecoveryInstruction P.programId hybridAccount
      recoveryConfig).Presented accounts) :
    Reaches (P := P) (.finalizeSocialRecovery hybridAccount recoveryConfig)
      (finalizeSocialRecoveryInstruction P.programId hybridAccount recoveryConfig) accounts := by
  simp only [Instruction.Presented, finalizeSocialRecoveryInstruction, List.forall₂_cons_left_iff,
    List.forall₂_nil_left_iff] at hpresented
  obtain ⟨vault, _, hvault, ⟨config, _, hconfig, rfl, rfl⟩, rfl⟩ := hpresented
  obtain rfl := hvault.key
  obtain rfl := hconfig.key
  exact ⟨rfl, _, _, rfl, .finalizeSocialRecovery,
    SocialRecovery.processFinalizeSocialRecovery_eq_body P (hvault.writable rfl)
      (hconfig.writable rfl)⟩

theorem reconstructDigest_reaches {expectedDigest : Digest}
    (hpresented : (reconstructDigestInstruction P.programId hybridAccount intent
      expectedDigest).Presented accounts) :
    Reaches (P := P) (.reconstructDigest hybridAccount intent expectedDigest)
      (reconstructDigestInstruction P.programId hybridAccount intent expectedDigest) accounts := by
  simp only [Instruction.Presented, reconstructDigestInstruction, List.forall₂_cons_left_iff,
    List.forall₂_nil_left_iff] at hpresented
  obtain ⟨vault, _, hvault, rfl, rfl⟩ := hpresented
  obtain rfl := hvault.key
  exact ⟨rfl, _, _, rfl, .reconstructDigest, processReconstructCanonicalDigest_eq_body P⟩

/-- Every instruction a builder returns leads where its call is to lead. -/
theorem build_reaches {c : Call} (h : c.build P P.programId = .ok ix)
    (hpresented : ix.Presented accounts) : Reaches (P := P) c ix accounts := by
  cases c with
  | initializeAccount =>
    simp only [build, ClientRes.bind_eq_ok, ClientRes.pure_eq_ok, Prod.exists] at h
    obtain ⟨_, _, _, h, rfl⟩ := h
    exact initializeAccount_reaches h hpresented
  | execute => exact execute_reaches h hpresented
  | executeTransferSplWithProgram => exact executeTransferSplWithProgram_reaches h hpresented
  | executeTransferSpl => exact executeTransferSpl_reaches h hpresented
  | rotateEd25519 => exact rotateEd25519_reaches h hpresented
  | rotateFalcon => exact rotateFalcon_reaches h hpresented
  | changePolicy => exact changePolicy_reaches h hpresented
  | recoverAccount => exact recoverAccount_reaches h hpresented
  | setRecoveryConfig => exact setRecoveryConfig_reaches h hpresented
  | initiateSocialRecovery =>
    obtain rfl := Except.ok.inj h
    exact initiateSocialRecovery_reaches hpresented
  | finalizeSocialRecovery =>
    obtain rfl := Except.ok.inj h
    exact finalizeSocialRecovery_reaches hpresented
  | cancelSocialRecovery => exact cancelSocialRecovery_reaches h hpresented
  | reconstructDigest =>
    obtain rfl := Except.ok.inj h
    exact reconstructDigest_reaches hpresented

end Call

/-- The context the program reads completes the wire fragment to the intent it was cut from. -/
theorem reconstructIntent_fromIntent {P : Platform} {intent : AuthorizationIntent}
    {vault : AccountInfo} {inv : Invocation} {m m' : Machine} {digest : Digest}
    {ctx : IntentContext} (hversion : intent.version = intentVersion)
    (hchain : intent.chainDomain = P.chainDomain) (hprogram : intent.programId = P.programId)
    (haccount : intent.account = vault.key)
    (hnonce : HybridAccount.nonceFromSlice (m.data vault.key) = .ok intent.nonce)
    (h : reconstructAndDigest P vault (.fromIntent intent) inv.enter m =
      .ok ((digest, ctx), m')) :
    reconstructIntent ctx (.fromIntent intent) = intent ∧
      digest = P.sha256 (canonicalPreimage (reconstructIntent ctx (.fromIntent intent))).toList := by
  obtain ⟨-, -, a, hdata, -, rfl, rfl⟩ := reconstructAndDigest_eq_ok.mp h
  rw [hdata, HybridAccount.nonceFromSlice_data, Except.ok.injEq] at hnonce
  refine ⟨?_, rfl⟩
  unfold reconstructIntent ExecuteIntentWire.fromIntent
  rw [← hversion, ← hchain, ← hprogram, ← haccount, hnonce]

/-- On a vault of the program a digest is rebuilt. -/
theorem exists_reconstructAndDigest {P : Platform} {vault : AccountInfo}
    {wire : ExecuteIntentWire} {inv : Invocation} {m : Machine}
    (howner : m.owner vault.key = P.programId)
    (hversion : HybridAccount.versionFromSlice (m.data vault.key) = .ok accountVersion) :
    ∃ digest ctx, reconstructAndDigest P vault wire inv.enter m = .ok ((digest, ctx), m) := by
  obtain ⟨a, hdata, hversion'⟩ := HybridAccount.versionFromSlice_eq_ok.mp hversion
  exact ⟨_, _, reconstructAndDigest_eq_ok.mpr ⟨rfl, howner, a, hdata.symm, hversion', rfl, rfl⟩⟩

/-- **Client builders and program parsers agree.** On every instruction a builder returns, with
its accounts as the runtime presents them, the program runs the second half of the handler the
builder is named after, on the parts of the call. Where the call carries an intent for this
deployment and the nonce the account stores, the preimage the program rebuilds is that of the
client, and the digest is its hash; on a vault of the program it is rebuilt. -/
theorem builders_agree (P : Platform) (c : Call) {ix : Instruction} {accounts : List AccountInfo}
    (hbuild : c.build P P.programId = .ok ix) (hpresented : ix.Presented accounts) :
    ix.programId = P.programId ∧
    (∃ payload run, ix.data = c.instruction.asU8 :: payload ∧ c.Runs P accounts run ∧
      Processor.process P accounts ix.data = run ∧
      Processor.handler P c.instruction accounts payload = run) ∧
    (∀ (vault : AccountInfo) (intent : AuthorizationIntent),
      c.signed? = some (vault.key, intent) → intent.version = intentVersion →
      intent.chainDomain = P.chainDomain → intent.programId = P.programId →
      intent.account = vault.key →
      ∀ (inv : Invocation) (m : Machine),
        HybridAccount.nonceFromSlice (m.data vault.key) = .ok intent.nonce →
        (∀ m' digest ctx,
          reconstructAndDigest P vault (.fromIntent intent) inv.enter m = .ok ((digest, ctx), m') →
          canonicalPreimage (reconstructIntent ctx (.fromIntent intent)) =
              canonicalPreimage intent ∧
            digest = P.sha256 (canonicalPreimage intent).toList) ∧
        (m.owner vault.key = P.programId →
          HybridAccount.versionFromSlice (m.data vault.key) = .ok accountVersion →
          ∃ digest ctx, reconstructAndDigest P vault (.fromIntent intent) inv.enter m =
            .ok ((digest, ctx), m))) := by
  obtain ⟨hprogram, payload, run, hdata, hruns, hrun⟩ := Call.build_reaches hbuild hpresented
  refine ⟨hprogram, ⟨payload, run, hdata, hruns, ?_, hrun⟩, ?_⟩
  · rw [hdata, Processor.process_asU8, hrun]
  · intro vault intent _ hversion hchain hprogramId haccount inv m hnonce
    refine ⟨fun m' digest ctx h => ?_, exists_reconstructAndDigest⟩
    -- what the wire leaves out is what the program knows of the vault
    obtain ⟨hintent, hdigest⟩ :=
      reconstructIntent_fromIntent hversion hchain hprogramId haccount hnonce h
    rw [hintent] at hdigest ⊢
    exact ⟨rfl, hdigest⟩

open Sample in
/-- The client's transfer out of the vault under both schemes is executed as such, over the
preimage the client made. -/
theorem builders_agree_transfer :
    ∃ ix run, (Call.execute hybridVault hybridIntent (List.replicate falconSignatureLen 0)).build
        platform programId = .ok ix ∧
      Processor.process platform spendHybrid.accounts ix.data = run ∧
      (Call.execute hybridVault hybridIntent (List.replicate falconSignatureLen 0)).Runs platform
        spendHybrid.accounts run ∧
      ∃ digest ctx m', reconstructAndDigest platform (writableInfo hybridVault)
          (.fromIntent hybridIntent) spendHybrid.enter hybridCreated = .ok ((digest, ctx), m') ∧
        canonicalPreimage (reconstructIntent ctx (.fromIntent hybridIntent)) =
          canonicalPreimage hybridIntent := by
  have hbuild : (Call.execute hybridVault hybridIntent
      (List.replicate falconSignatureLen 0)).build platform programId =
      .ok { programId, data := spendHybrid.data,
            accounts := [.new hybridVault false, .new creator false,
              .newReadonly instructionsSysvarId false] } := by
    have hdata : executeData hybridIntent (List.replicate falconSignatureLen 0) =
        .ok spendHybrid.data := executeData_eq_ok.mpr ⟨List.length_replicate, rfl⟩
    have haction : hybridIntent.action = .transferSol creator 1000000 := rfl
    simp only [Call.build, executeInstruction, haction, ClientRes.bind_eq_ok, hdata]
    exact ⟨_, rfl, _, rfl, rfl⟩
  have hpresented : Instruction.Presented
      { programId, data := spendHybrid.data,
        accounts := [.new hybridVault false, .new creator false,
          .newReadonly instructionsSysvarId false] } spendHybrid.accounts :=
    .cons ⟨rfl, id, id⟩ (.cons ⟨rfl, id, id⟩ (.cons ⟨rfl, id, id⟩ .nil))
  -- the theorem is applied to the call and to the accounts of the sample transaction
  obtain ⟨-, ⟨_, run, -, hruns, hrun, -⟩, hpreimage⟩ :=
    builders_agree platform _ hbuild hpresented
  obtain ⟨hsame, hreturns⟩ := hpreimage (writableInfo hybridVault) hybridIntent rfl rfl rfl rfl rfl
    spendHybrid hybridCreated (by decide +kernel)
  obtain ⟨digest, ctx, h⟩ := hreturns (by decide +kernel) (by decide +kernel)
  exact ⟨_, run, hbuild, hrun, hruns, digest, ctx, _, h, (hsame _ digest ctx h).1⟩

end Client

end DualKey
