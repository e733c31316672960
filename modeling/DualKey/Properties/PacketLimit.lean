import DualKey.Properties.Commands

/-!
# Transactions and the packet limit

A legacy transaction is sent as one packet of at most 1232 bytes. The transaction of a command,
paid for and signed by one payer, has a size that depends on nothing but the command and the
number of different keys in the message (`packet_limit`). Every command but two stays below the
limit whatever the keys are. `rotate-falcon` exceeds it always, and refuses to broadcast for that
reason. `transfer-spl` names ten keys and exceeds it unless three of them coincide, and does not
refuse: where its accounts differ, whatever it sends is too large (`token_transfer_exceeds`).
Whatever another command sends fits (`sent_fits`).
-/

namespace DualKey

open Dialogue Session Client
open Hex (Codec)

/-- The size of a packet that carries a legacy transaction. -/
def packetLimit : ℕ := 1232

/-- The shapes of the instructions a command builds. The precompile instruction names no accounts
and carries 144 bytes; one Falcon signature makes 716 bytes of data. -/
def Command.shape : Command → List (ℕ × ℕ)
  | init _ => [(3, 935)]
  | transfer _ => [(0, 144), (3, 716)]
  | changePolicy _ _ _ => [(0, 144), (2, 716)]
  | rotateEd25519 _ _ => [(0, 144), (3, 716)]
  | recoverEnable _ => [(0, 144), (2, 716)]
  | recoverDisable _ => [(0, 144), (2, 716)]
  | recoverRotateEd25519 _ _ => [(3, 716)]
  | transferSpl _ => [(0, 144), (7, 716)]
  | rotateFalcon _ _ => [(0, 144), (2, 2279)]
  | socialSetConfig _ _ _ => [(0, 144), (5, 716)]
  | socialInitiate _ => [(0, 144), (3, 33)]
  | socialFinalize _ => [(2, 1)]
  | socialCancel _ => [(0, 144), (3, 716)]

/-- Whether a message with so many different keys leaves room for the instructions. -/
def Command.Fits (keys : ℕ) : Command → Prop
  | rotateFalcon _ _ => False
  | transferSpl _ => keys ≤ 7
  | _ => True

section General

variable {Coins : Type} {P : Platform} {crypto : Crypto Coins} {hex : Codec} {sdk : Sdk}
  {log : Log (Io.Answer Coins)} {built : Built}

/-! ### Shapes -/

theorem shape_signed {programId : Pubkey} {accounts : List AccountMeta} {discriminator : UInt8}
    {intent : AuthorizationIntent} {falconSig : List UInt8}
    (h : falconSig.length = falconSignatureLen) :
    Instruction.shape ⟨programId, accounts, signedData discriminator intent falconSig⟩ =
      (accounts.length, 716) := by
  rw [Instruction.shape, length_signedData h]

theorem shape_precompile (hdoc : sdk.Documented) (ed : Ed25519Keypair) (digest : Digest) :
    (ed25519PrecompileInstruction crypto sdk ed digest).shape = (0, 144) := by
  rw [ed25519PrecompileInstruction, hdoc.newEd25519Instruction]
  simp [ed25519Instruction, Instruction.shape]

theorem shape_recoverRotate {p v config key : Pubkey} {intent : AuthorizationIntent}
    {wire : List UInt8} {ix : Instruction}
    (haction : intent.action = .recoverAccount .rotateEd25519 key)
    (h : recoverAccountInstruction p v intent wire (some config) = .ok ix) :
    ix.shape = (3, 716) := by
  obtain ⟨hsig, op, _, accounts, haction', haccounts, rfl⟩ := recoverAccountInstruction_ok h
  obtain ⟨rfl, -⟩ := Action.recoverAccount.inj (haction.symm.trans haction')
  cases haccounts
  rw [shape_signed hsig]
  rfl

theorem shape_initAccounts {programId creator hybrid owner : Pubkey} {index : UInt32}
    {policy : AuthorizationPolicy} {wireKey : List UInt8}
    (hlen : wireKey.length = falconWirePubkeyLen) :
    Instruction.shape ⟨programId,
      [.new creator true, .new hybrid false, .newReadonly systemProgramId false],
      initializeDiscriminator :: (u32ToLe index).toList ++ owner.toList ++ [policy.asU8] ++
        wireKey⟩ = (3, 935) := by
  simp [Instruction.shape, hlen, falconWirePubkeyLen]

theorem shape_initiate {programId vault config key : Pubkey} :
    (initiateSocialRecoveryInstruction programId vault config key).shape = (3, 33) := by
  simp [Instruction.shape, initiateSocialRecoveryInstruction]

theorem shape_finalize {programId vault config : Pubkey} :
    (finalizeSocialRecoveryInstruction programId vault config).shape = (2, 1) := rfl

/-- An instruction alone. -/
theorem shapes_one {ix : Instruction} {shape : ℕ × ℕ} (h : ix.shape = shape) :
    [ix].map Instruction.shape = [shape] := by
  rw [List.map_cons, List.map_nil, h]

/-- A signed instruction behind its precompile instruction. -/
theorem shapes_pair (hdoc : sdk.Documented) {ed : Ed25519Keypair} {digest : Digest}
    {ix : Instruction} {shape : ℕ × ℕ} (h : ix.shape = shape) :
    [ed25519PrecompileInstruction crypto sdk ed digest, ix].map Instruction.shape =
      [(0, 144), shape] := by
  rw [List.map_cons, List.map_cons, List.map_nil, shape_precompile hdoc, h]

/-- What a command without a recovery config has built, for any builder. -/
theorem shapes_signLifecycle (hdoc : sdk.Documented) {params : LifecycleParams} {action : Action}
    {buildIx : Pubkey → Pubkey → AuthorizationIntent → List UInt8 → ClientRes Instruction}
    {shape : ℕ × ℕ}
    (hbuild : ∀ p v n wire ix, buildIx p v (signingIntent p v n params.expirySlot action) wire =
      .ok ix → ix.shape = shape)
    (h : Path (signLifecycle crypto hex sdk params action buildIx) log (.ok built)) :
    built.instructions.map Instruction.shape = [(0, 144), shape] := by
  -- two addresses, two key pairs, nonce and signature
  obtain ⟨programId, hrest⟩ := (Succeeds.of_path h).skip
  obtain ⟨hybridAccount, hrest⟩ := hrest.skip
  obtain ⟨ed, hrest⟩ := hrest.skip
  obtain ⟨falcon, hrest⟩ := hrest.skip
  obtain ⟨nonce, hrest⟩ := hrest.skip
  obtain ⟨wire, hrest⟩ := hrest.skip
  obtain ⟨ix, hix, hrest⟩ := hrest.client
  obtain ⟨_, hrest⟩ := hrest.skip
  obtain ⟨_, hrest⟩ := hrest.skip
  obtain rfl := hrest.pure
  exact shapes_pair hdoc (hbuild _ _ _ _ _ hix)

theorem shape_recoverFlag {p v : Pubkey} {intent : AuthorizationIntent} {op : RecoveryOp}
    {key : Pubkey} {wire : List UInt8} {ix : Instruction}
    (haction : intent.action = .recoverAccount op key) (hop : op ≠ .rotateEd25519)
    (h : recoverAccountInstruction p v intent wire none = .ok ix) : ix.shape = (2, 716) := by
  obtain ⟨hsig, op', _, accounts, haction', haccounts, rfl⟩ := recoverAccountInstruction_ok h
  obtain ⟨rfl, -⟩ := Action.recoverAccount.inj (haction.symm.trans haction')
  rw [shape_signed hsig]
  cases op with
  | enable =>
    cases haccounts
    rfl
  | disable =>
    cases haccounts
    rfl
  | rotateEd25519 => exact absurd rfl hop

theorem shapes_recoverEnable (hdoc : sdk.Documented) {params : LifecycleParams}
    (h : Path (recoverEnable crypto hex sdk params) log (.ok built)) :
    built.instructions.map Instruction.shape = [(0, 144), (2, 716)] := by
  unfold recoverEnable at h
  refine shapes_signLifecycle hdoc (fun p v n wire ix hix => ?_) h
  have hop : RecoveryOp.enable ≠ .rotateEd25519 := by decide
  exact shape_recoverFlag rfl hop hix

theorem shapes_recoverDisable (hdoc : sdk.Documented) {params : LifecycleParams}
    (h : Path (recoverDisable crypto hex sdk params) log (.ok built)) :
    built.instructions.map Instruction.shape = [(0, 144), (2, 716)] := by
  unfold recoverDisable at h
  refine shapes_signLifecycle hdoc (fun p v n wire ix hix => ?_) h
  have hop : RecoveryOp.disable ≠ .rotateEd25519 := by decide
  exact shape_recoverFlag rfl hop hix

theorem shapes_init {params : InitParams}
    (h : Path (init P crypto hex sdk params) log (.ok built)) :
    built.instructions.map Instruction.shape = [(3, 935)] := by
  obtain ⟨programId, hrest⟩ := (Succeeds.of_path h).skip
  obtain ⟨creator, hrest⟩ := hrest.skip
  obtain ⟨keys, hrest⟩ := hrest.skip
  obtain ⟨⟨ix, v, bump⟩, hix, hrest⟩ := hrest.client
  obtain ⟨_, hrest⟩ := hrest.skip
  obtain ⟨_, hrest⟩ := hrest.skip
  obtain rfl := hrest.pure
  obtain ⟨-, hlen, rfl⟩ := initializeInstruction_ok hix
  exact shapes_one (shape_initAccounts hlen)

theorem shapes_transfer (hdoc : sdk.Documented) {params : TransferParams}
    (h : Path (transfer crypto hex sdk params) log (.ok built)) :
    built.instructions.map Instruction.shape = [(0, 144), (3, 716)] := by
  -- three addresses, two key pairs, nonce and signature
  obtain ⟨programId, hrest⟩ := (Succeeds.of_path h).skip
  obtain ⟨hybridAccount, hrest⟩ := hrest.skip
  obtain ⟨recipient, hrest⟩ := hrest.skip
  obtain ⟨ed, hrest⟩ := hrest.skip
  obtain ⟨falcon, hrest⟩ := hrest.skip
  obtain ⟨nonce, hrest⟩ := hrest.skip
  obtain ⟨wire, hrest⟩ := hrest.skip
  obtain ⟨ix, hix, hrest⟩ := hrest.client
  obtain ⟨_, hrest⟩ := hrest.skip
  obtain ⟨_, hrest⟩ := hrest.skip
  obtain rfl := hrest.pure
  obtain ⟨hsig, _, _, -, rfl⟩ := executeInstruction_ok hix
  exact shapes_pair hdoc (shape_signed hsig)

theorem shapes_transferSpl (hdoc : sdk.Documented) {params : TransferSplParams}
    (h : Path (transferSpl crypto hex sdk params) log (.ok built)) :
    built.instructions.map Instruction.shape = [(0, 144), (7, 716)] := by
  -- six addresses instead of three
  obtain ⟨programId, hrest⟩ := (Succeeds.of_path h).skip
  obtain ⟨hybridAccount, hrest⟩ := hrest.skip
  obtain ⟨creator, hrest⟩ := hrest.skip
  obtain ⟨source, hrest⟩ := hrest.skip
  obtain ⟨mint, hrest⟩ := hrest.skip
  obtain ⟨destination, hrest⟩ := hrest.skip
  obtain ⟨ed, hrest⟩ := hrest.skip
  obtain ⟨falcon, hrest⟩ := hrest.skip
  obtain ⟨nonce, hrest⟩ := hrest.skip
  obtain ⟨wire, hrest⟩ := hrest.skip
  obtain ⟨ix, hix, hrest⟩ := hrest.client
  obtain ⟨_, hrest⟩ := hrest.skip
  obtain ⟨_, hrest⟩ := hrest.skip
  obtain rfl := hrest.pure
  obtain ⟨hsig, _, _, -, rfl⟩ := executeTransferSplInstructionWithProgram_ok hix
  exact shapes_pair hdoc (shape_signed hsig)

theorem shapes_rotateEd25519 (hdoc : sdk.Documented) {params : LifecycleParams} {newOwner : String}
    (h : Path (rotateEd25519 P crypto hex sdk params newOwner) log (.ok built)) :
    built.instructions.map Instruction.shape = [(0, 144), (3, 716)] := by
  obtain ⟨key, hrest⟩ := (Succeeds.of_path h).skip
  obtain ⟨programId, hrest⟩ := hrest.skip
  obtain ⟨hybridAccount, hrest⟩ := hrest.skip
  obtain ⟨⟨config, bump⟩, -, hrest⟩ := hrest.client
  obtain ⟨ed, hrest⟩ := hrest.skip
  obtain ⟨falcon, hrest⟩ := hrest.skip
  obtain ⟨nonce, hrest⟩ := hrest.skip
  obtain ⟨wire, hrest⟩ := hrest.skip
  obtain ⟨ix, hix, hrest⟩ := hrest.client
  obtain ⟨_, hrest⟩ := hrest.skip
  obtain ⟨_, hrest⟩ := hrest.skip
  obtain rfl := hrest.pure
  obtain ⟨hsig, rfl⟩ := rotateEd25519Instruction_ok hix
  exact shapes_pair hdoc (shape_signed hsig)

/-- No precompile instruction: Falcon signs alone. -/
theorem shapes_recoverRotateEd25519 {params : LifecycleParams} {newOwner : String}
    (h : Path (recoverRotateEd25519 P crypto hex sdk params newOwner) log (.ok built)) :
    built.instructions.map Instruction.shape = [(3, 716)] := by
  obtain ⟨key, hrest⟩ := (Succeeds.of_path h).skip
  obtain ⟨programId, hrest⟩ := hrest.skip
  obtain ⟨hybridAccount, hrest⟩ := hrest.skip
  obtain ⟨⟨config, bump⟩, -, hrest⟩ := hrest.client
  obtain ⟨falcon, hrest⟩ := hrest.skip
  obtain ⟨nonce, hrest⟩ := hrest.skip
  obtain ⟨wire, hrest⟩ := hrest.skip
  obtain ⟨ix, hix, hrest⟩ := hrest.client
  obtain ⟨_, hrest⟩ := hrest.skip
  obtain ⟨_, hrest⟩ := hrest.skip
  obtain rfl := hrest.pure
  exact shapes_one (shape_recoverRotate rfl hix)

theorem shapes_rotateFalcon (hdoc : sdk.Documented) {params : LifecycleParams} {newDir : PathBuf}
    (h : Path (rotateFalcon crypto hex sdk params newDir) log (.ok built)) :
    built.instructions.map Instruction.shape = [(0, 144), (2, 2279)] := by
  -- the guard against a broadcast comes first
  obtain ⟨_, hrest⟩ := (Succeeds.of_path h).skip
  obtain ⟨programId, hrest⟩ := hrest.skip
  obtain ⟨hybridAccount, hrest⟩ := hrest.skip
  obtain ⟨ed, hrest⟩ := hrest.skip
  obtain ⟨falcon, hrest⟩ := hrest.skip
  obtain ⟨newFalcon, hrest⟩ := hrest.skip
  obtain ⟨nonce, hrest⟩ := hrest.skip
  -- both the old and the new key sign
  obtain ⟨authWire, hrest⟩ := hrest.skip
  obtain ⟨popWire, hrest⟩ := hrest.skip
  obtain ⟨ix, hix, hrest⟩ := hrest.client
  obtain ⟨_, hrest⟩ := hrest.skip
  obtain rfl := hrest.pure
  obtain ⟨hauth, hkey, hpop, rfl⟩ := rotateFalconInstruction_ok hix
  refine shapes_pair hdoc ?_
  simp [Instruction.shape, encodeExecuteIntentWire, hauth, hkey, hpop, falconSignatureLen,
    falconWirePubkeyLen, executeIntentWireLen]

/-- Sent or not, the payer is one of the five accounts. -/
theorem shapes_socialSetConfig (hdoc : sdk.Documented) {params : LifecycleParams}
    {guardian : String} {delaySlots : UInt64}
    (h : Path (socialSetConfig P crypto hex sdk params guardian delaySlots) log (.ok built)) :
    built.instructions.map Instruction.shape = [(0, 144), (5, 716)] := by
  obtain ⟨programId, hrest⟩ := (Succeeds.of_path h).skip
  obtain ⟨hybridAccount, hrest⟩ := hrest.skip
  obtain ⟨key, hrest⟩ := hrest.skip
  obtain ⟨⟨config, bump⟩, -, hrest⟩ := hrest.client
  obtain ⟨ed, hrest⟩ := hrest.skip
  obtain ⟨falcon, hrest⟩ := hrest.skip
  obtain ⟨nonce, hrest⟩ := hrest.skip
  obtain ⟨wire, hrest⟩ := hrest.skip
  split at hrest
  · -- the payer is read from its file before the instruction is built
    obtain ⟨_, -, hrest⟩ := hrest.client
    obtain ⟨payer, hrest⟩ := hrest.skip
    obtain ⟨ix, hix, hrest⟩ := hrest.client
    obtain ⟨_, hrest⟩ := hrest.skip
    obtain ⟨_, hrest⟩ := hrest.skip
    obtain rfl := hrest.pure
    obtain ⟨hsig, rfl⟩ := setRecoveryConfigInstruction_ok hix
    exact shapes_pair hdoc (shape_signed hsig)
  · -- offline the payer is a placeholder
    obtain ⟨ix, hix, hrest⟩ := hrest.client
    obtain ⟨_, hrest⟩ := hrest.skip
    obtain rfl := hrest.pure
    obtain ⟨hsig, rfl⟩ := setRecoveryConfigInstruction_ok hix
    exact shapes_pair hdoc (shape_signed hsig)

theorem shapes_socialInitiate (hdoc : sdk.Documented) {params : InitiateParams}
    (h : Path (socialInitiate P crypto hex sdk params) log (.ok built)) :
    built.instructions.map Instruction.shape = [(0, 144), (3, 33)] := by
  obtain ⟨programId, hrest⟩ := (Succeeds.of_path h).skip
  obtain ⟨hybridAccount, hrest⟩ := hrest.skip
  obtain ⟨key, hrest⟩ := hrest.skip
  obtain ⟨⟨config, bump⟩, -, hrest⟩ := hrest.client
  obtain ⟨guardian, hrest⟩ := hrest.skip
  obtain ⟨nonce, hrest⟩ := hrest.skip
  obtain ⟨_, hrest⟩ := hrest.skip
  obtain ⟨_, hrest⟩ := hrest.skip
  obtain rfl := hrest.pure
  exact shapes_pair hdoc shape_initiate

theorem shapes_socialFinalize {params : FinalizeParams}
    (h : Path (socialFinalize P crypto hex sdk params) log (.ok built)) :
    built.instructions.map Instruction.shape = [(2, 1)] := by
  obtain ⟨programId, hrest⟩ := (Succeeds.of_path h).skip
  obtain ⟨hybridAccount, hrest⟩ := hrest.skip
  obtain ⟨⟨config, bump⟩, -, hrest⟩ := hrest.client
  obtain ⟨_, hrest⟩ := hrest.skip
  obtain ⟨_, hrest⟩ := hrest.skip
  obtain rfl := hrest.pure
  exact shapes_one shape_finalize

theorem shapes_socialCancel (hdoc : sdk.Documented) {params : LifecycleParams}
    (h : Path (socialCancel P crypto hex sdk params) log (.ok built)) :
    built.instructions.map Instruction.shape = [(0, 144), (3, 716)] := by
  obtain ⟨programId, hrest⟩ := (Succeeds.of_path h).skip
  obtain ⟨hybridAccount, hrest⟩ := hrest.skip
  obtain ⟨⟨config, bump⟩, -, hrest⟩ := hrest.client
  obtain ⟨ed, hrest⟩ := hrest.skip
  obtain ⟨falcon, hrest⟩ := hrest.skip
  obtain ⟨nonce, hrest⟩ := hrest.skip
  obtain ⟨wire, hrest⟩ := hrest.skip
  obtain ⟨ix, hix, hrest⟩ := hrest.client
  obtain ⟨_, hrest⟩ := hrest.skip
  obtain ⟨_, hrest⟩ := hrest.skip
  obtain rfl := hrest.pure
  obtain ⟨hsig, rfl⟩ := cancelSocialRecoveryInstruction_ok hix
  exact shapes_pair hdoc (shape_signed hsig)

/-- What a command builds has the shapes of the command, whatever it has read. -/
theorem shapes_of_path (hdoc : sdk.Documented) {cmd : Command}
    (h : Path (cmd.run P crypto hex sdk) log (.ok built)) :
    built.instructions.map Instruction.shape = cmd.shape := by
  cases cmd with
  | init params => exact shapes_init h
  | transfer params => exact shapes_transfer hdoc h
  | changePolicy params policy threshold =>
    refine shapes_signLifecycle hdoc (fun p v n wire ix hix => ?_) h
    obtain ⟨hsig, rfl⟩ := changePolicyInstruction_ok hix
    exact shape_signed hsig
  | rotateEd25519 params newOwner => exact shapes_rotateEd25519 hdoc h
  | recoverEnable params => exact shapes_recoverEnable hdoc h
  | recoverDisable params => exact shapes_recoverDisable hdoc h
  | recoverRotateEd25519 params newOwner => exact shapes_recoverRotateEd25519 h
  | transferSpl params => exact shapes_transferSpl hdoc h
  | rotateFalcon params newDir => exact shapes_rotateFalcon hdoc h
  | socialSetConfig params guardian delaySlots => exact shapes_socialSetConfig hdoc h
  | socialInitiate params => exact shapes_socialInitiate hdoc h
  | socialFinalize params => exact shapes_socialFinalize h
  | socialCancel params => exact shapes_socialCancel hdoc h

/-! ### Sizes -/

/-- The keys a list of instructions names are counted by its shapes. -/
theorem length_namedKeys_shape {ixs : List Instruction} {shapes : List (ℕ × ℕ)}
    (h : ixs.map Instruction.shape = shapes) :
    (namedKeys ixs).length = (shapes.map Prod.fst).sum + shapes.length := by
  rw [length_namedKeys, List.length_flatMap, ← h, List.map_map, List.length_map]
  rfl

/-- The size of a transaction with one signature, exactly. -/
theorem length_legacyTransaction (hdoc : sdk.Documented) {payer : Ed25519Keypair}
    {ixs : List Instruction} {blockhash : ByteVec 32} {tx : Transaction}
    (hlen : (namedKeys ixs).length < 127)
    (hsigners : ∀ entry ∈ ixs.flatMap Instruction.accounts, entry.isSigner = true →
      entry.pubkey = payer.publicBytes crypto)
    (h : Path (signLegacyTransaction crypto sdk payer ixs blockhash) log (.ok tx)) :
    tx.bytes.length = 102 + 32 * (messageKeys ixs (payer.publicBytes crypto)).card +
      ((ixs.map Instruction.shape).map shapeBytes).sum := by
  simp only [signLegacyTransaction, path_bind_ok, path_mapErr, path_pure, Except.ok.injEq] at h
  obtain ⟨bytes, _, _, -, -, -, rfl⟩ := h
  -- the payer is the only signer, so there is one signature
  have hnum : numSigners ixs (payer.publicBytes crypto) = 1 := by
    rw [numSigners, keyGroup_signer_eq_nil hsigners, keyGroup_signer_eq_nil hsigners]
    rfl
  -- the length prefixes of signatures, keys and instructions take one byte each
  have hcard : (messageKeys ixs (payer.publicBytes crypto)).card ≤ 1 + (namedKeys ixs).length :=
    card_messageKeys_le
  have hkeys : compactWidth (messageKeys ixs (payer.publicBytes crypto)).card = 1 :=
    if_pos (by omega)
  have hixs : compactWidth ixs.length = 1 := by
    rw [length_namedKeys] at hlen
    exact if_pos (by omega)
  have hmessage : (legacyMessage sdk (payer.publicBytes crypto) ixs blockhash) =
      { compileMessage ixs (payer.publicBytes crypto) with recentBlockhash := blockhash } := by
    rw [legacyMessage, hdoc.newMessage _ _ (by omega)]
  rw [Transaction.length_bytes, LegacyMessage.length_bytes, hmessage, sum_compiled_bytes]
  simp only [compileMessage, hnum, length_accountKeys_eq_card, List.length_map, hkeys, hixs,
    List.length_set, List.length_replicate]
  have hone : compactWidth (UInt8.ofNat 1).toNat = 1 := rfl
  rw [hone]
  have htoNat : (UInt8.ofNat 1).toNat = 1 := rfl
  omega

/-- **The size of a transaction.** Where nobody but the payer is asked for a signature, the
transaction of what a command has built takes 102 bytes for signature, headers and blockhash, 32 for
every different key, and what the instructions of that command take, whatever the command has read.
It stays below the limit for every command but `rotate-falcon`, which always exceeds it, and
`transfer-spl`, which exceeds it from eight different keys on. -/
theorem packet_limit (hdoc : sdk.Documented) {cmd : Command} {payer : Ed25519Keypair}
    {blockhash : ByteVec 32} {tx : Transaction} {log' : Log (Io.Answer Coins)}
    (hbuilt : Path (cmd.run P crypto hex sdk) log (.ok built))
    (hsigners : ∀ entry ∈ built.instructions.flatMap Instruction.accounts,
      entry.isSigner = true → entry.pubkey = payer.publicBytes crypto)
    (htx : Path (signLegacyTransaction crypto sdk payer built.instructions blockhash) log'
      (.ok tx)) :
    let keys := (messageKeys built.instructions (payer.publicBytes crypto)).card
    ∃ wire, sdk.serializeTransaction tx = .ok wire ∧
      wire.length = 102 + 32 * keys + (cmd.shape.map shapeBytes).sum ∧
      (wire.length ≤ packetLimit ↔ cmd.Fits keys) := by
  intro keys
  have hshapes := shapes_of_path hdoc hbuilt
  have hnamed := length_namedKeys_shape hshapes
  have hkeys : keys ≤ 1 + (namedKeys built.instructions).length := card_messageKeys_le
  have hshort : (namedKeys built.instructions).length < 127 := by
    rw [hnamed]
    cases cmd <;> simp [Command.shape]
  have hsize := length_legacyTransaction hdoc hshort hsigners htx
  rw [hshapes] at hsize
  refine ⟨tx.bytes, hdoc.serializeTransaction tx, hsize, ?_⟩
  rw [hsize]
  -- the accounts a command names bound its keys, which decides every command but `transfer-spl`
  cases cmd <;>
    simp [Command.shape, Command.Fits, shapeBytes, compactWidth, packetLimit] at hnamed ⊢ <;>
    omega

/-- The size that was measured for a transfer, where all six keys differ. -/
example (params : TransferParams) :
    102 + 32 * 6 + ((Command.transfer params).shape.map shapeBytes).sum = 1165 := rfl

/-! ### What is sent -/

/-- A question that sends nothing, or a transaction of such a size. -/
def Io.Sends (sdk : Sdk) (S : ℕ → Prop) (q : Io) : Prop :=
  q.isSend = true → ∃ url wire, q = .post url (Rpc.requestBody "sendTransaction"
    (Rpc.sendParams sdk wire)) ∧ S wire.length

/-- Every transaction that is sent has such a size. -/
abbrev Session.Sends {α : Type} (sdk : Sdk) (S : ℕ → Prop) (x : Session Coins α) : Prop :=
  Within (Io.Sends sdk S) (fun _ => false) 0 x

section Sends

variable {S : ℕ → Prop} {paths : KeyPaths}

/-- A part that sends nothing. -/
theorem sends_of_confined (crypto : Crypto Coins) (scope : Scope) {α : Type}
    {x : Session Coins α} (h : x.Confined crypto sdk scope 0) : x.Sends sdk S := by
  intro log r hpath
  obtain ⟨-, hcount⟩ := h log r hpath
  refine ⟨fun e he hsend => ?_, ?_⟩
  · exact absurd hsend (List.countP_eq_zero.mp (Nat.le_zero.mp hcount) e he)
  · exact Nat.le_of_eq (List.countP_eq_zero.mpr fun _ _ => Bool.false_ne_true)

theorem sends_loadEd25519 (crypto : Crypto Coins) :
    (Ed25519Keypair.load paths : Session Coins Ed25519Keypair).Sends sdk S :=
  sends_of_confined crypto ⟨[paths.ed25519Sk], false, ⟨false, none, none⟩, none⟩
    (confined_loadEd25519 (by simp))

theorem sends_loadFalcon : (FalconKeypair.load crypto sdk paths).Sends sdk S :=
  sends_of_confined crypto ⟨[paths.falconSk, paths.falconPk], false, ⟨false, none, none⟩, none⟩
    (confined_loadFalcon (by simp) (by simp))

theorem sends_loadPublic (crypto : Crypto Coins) :
    (PublicKeys.load paths : Session Coins PublicKeys).Sends sdk S :=
  sends_of_confined crypto ⟨[paths.ed25519Pk, paths.falconPk], false, ⟨false, none, none⟩, none⟩
    (confined_loadPublic (by simp) (by simp))

theorem sends_loadPayer (crypto : Crypto Coins) {path : PathBuf} :
    (loadPayer sdk path : Session Coins Ed25519Keypair).Sends sdk S :=
  sends_of_confined crypto ⟨[], false, ⟨true, none, some path⟩, none⟩ (confined_loadPayer rfl rfl)

theorem sends_resolveNonce (crypto : Crypto Coins) {v : Pubkey} {nonce : Option UInt64}
    {broadcast : BroadcastOpts} :
    (resolveNonce sdk v nonce broadcast : Session Coins UInt64).Sends sdk S :=
  sends_of_confined crypto ⟨[], true, broadcast, none⟩ (confined_resolveNonce fun _ => rfl)

theorem sends_signFalcon {falcon : FalconKeypair} {digest : Digest} :
    (signFalcon crypto falcon digest).Sends sdk S :=
  sends_of_confined crypto ⟨[], false, ⟨false, none, none⟩, none⟩ confined_signFalcon

theorem sends_writeOut (crypto : Crypto Coins) {out : Option PathBuf} {artifact : Json} :
    (writeOut sdk out artifact : Session Coins Unit).Sends sdk S :=
  sends_of_confined crypto ⟨[], false, ⟨false, none, none⟩, out⟩ (confined_writeOut artifact)

/-- What is sent is the transaction that was signed. -/
theorem sends_sendInstructions (hdoc : sdk.Documented) {rpc : Rpc} {payer : Ed25519Keypair}
    {ixs : List Instruction}
    (hsize : ∀ blockhash log tx, Path (signLegacyTransaction crypto sdk payer ixs blockhash)
      log (.ok tx) → S tx.bytes.length) :
    (sendInstructions crypto sdk rpc payer ixs).Sends sdk S := by
  have hscope : (⟨[], false, ⟨true, some rpc.url, none⟩, none⟩ : Scope).Permits crypto sdk
      (.post rpc.url (Rpc.requestBody "getLatestBlockhash" (.arr [Rpc.confirmed]))) :=
    ⟨rfl, Or.inr ⟨rfl, .blockhash⟩⟩
  refine Within.bind_right ?_ fun blockhash _ _ => ?_
  · refine Within.bind_right (sends_of_confined crypto _ (confined_call hscope (by decide)))
      fun _ _ _ => ?_
    exact Within.bind_right (within_okOr _ _) fun _ _ _ => within_okOr _ _
  refine Within.bind_right ?_ fun tx _ htx => ?_
  · exact Within.bind_right (within_mapErr _ _) fun _ _ _ => .pure _
  refine Within.bind_right (within_mapErr _ _) fun wire _ hwire => ?_
  -- the bytes that are sent are those of the transaction
  have hbytes : tx.bytes = wire :=
    Except.ok.inj ((hdoc.serializeTransaction tx).symm.trans (path_mapErr.mp hwire).2)
  have hsend : Io.Sends sdk S (.post rpc.url (Rpc.requestBody "sendTransaction"
      (Rpc.sendParams sdk wire))) :=
    fun _ => ⟨rpc.url, wire, rfl, hbytes ▸ hsize _ _ _ htx⟩
  refine Within.bind_right ?_ fun result _ _ => ?_
  · refine Within.bind_right (within_asked hsend rfl) fun resp _ _ => ?_
    split
    · exact .throw _
    · exact within_okOr _ _
  · exact Within.bind_right (within_okOr _ _) fun sig _ _ => sends_of_confined crypto
      ⟨[], false, ⟨true, some rpc.url, none⟩, none⟩ (confined_poll rfl rfl _)

theorem sends_submitIf (hdoc : sdk.Documented) {broadcast : BroadcastOpts} {ixs : List Instruction}
    (hsize : ∀ payer blockhash log tx, Path (signLegacyTransaction crypto sdk payer ixs blockhash)
      log (.ok tx) → S tx.bytes.length) : (submitIf crypto sdk broadcast ixs).Sends sdk S := by
  unfold submitIf
  refine Within.ite (fun _ => ?_) fun _ => .pure _
  refine Within.bind_right (within_client _) fun ⟨url, payerPath⟩ _ _ => ?_
  refine Within.bind_right (sends_loadPayer crypto) fun payer _ _ => ?_
  exact Within.bind_right (sends_sendInstructions hdoc (hsize payer)) fun _ _ _ => .pure _

end Sends

/-! ### What the other commands send -/

section Fits

/-- The most a transaction of these shapes can take, where no two keys coincide. -/
def largestSize (shapes : List (ℕ × ℕ)) : ℕ :=
  102 + 32 * (1 + (shapes.map Prod.fst).sum + shapes.length) + (shapes.map shapeBytes).sum

theorem fits_of_shapes (hdoc : sdk.Documented) {payer : Ed25519Keypair} {ixs : List Instruction}
    {shapes : List (ℕ × ℕ)} (hshapes : ixs.map Instruction.shape = shapes)
    (hlargest : largestSize shapes ≤ packetLimit)
    (hsigners : ∀ entry ∈ ixs.flatMap Instruction.accounts, entry.isSigner = true →
      entry.pubkey = payer.publicBytes crypto)
    {blockhash : ByteVec 32} {log : Log (Io.Answer Coins)} {tx : Transaction}
    (htx : Path (signLegacyTransaction crypto sdk payer ixs blockhash) log (.ok tx)) :
    tx.bytes.length ≤ packetLimit := by
  have hnamed := length_namedKeys_shape hshapes
  have hkeys : (messageKeys ixs (payer.publicBytes crypto)).card ≤ 1 + (namedKeys ixs).length :=
    card_messageKeys_le
  unfold largestSize packetLimit at hlargest
  rw [length_legacyTransaction hdoc (by omega) hsigners htx, hshapes, packetLimit]
  omega

variable (hdoc : sdk.Documented)

include hdoc

theorem fits_submit_one {broadcast : BroadcastOpts} {ix : Instruction} {shape : ℕ × ℕ}
    (hunsigned : ix.Unsigned) (hshape : ix.shape = shape)
    (hlargest : largestSize [shape] ≤ packetLimit) :
    (submitIf crypto sdk broadcast [ix]).Sends sdk (· ≤ packetLimit) := by
  refine sends_submitIf hdoc fun payer blockhash log tx htx => ?_
  refine fits_of_shapes hdoc (shapes_one hshape) hlargest ?_ htx
  intro entry hentry hsigner
  rw [List.flatMap_singleton] at hentry
  rw [hunsigned.signers entry hentry] at hsigner
  cases hsigner

theorem fits_submit_pair {broadcast : BroadcastOpts} {ed : Ed25519Keypair} {digest : Digest}
    {ix : Instruction} {shape : ℕ × ℕ} (hunsigned : ix.Unsigned) (hshape : ix.shape = shape)
    (hlargest : largestSize [(0, 144), shape] ≤ packetLimit) :
    (submitIf crypto sdk broadcast [ed25519PrecompileInstruction crypto sdk ed digest, ix]).Sends
      sdk (· ≤ packetLimit) := by
  refine sends_submitIf hdoc fun payer blockhash log tx htx => ?_
  refine fits_of_shapes hdoc (shapes_pair hdoc hshape) hlargest ?_ htx
  intro entry hentry hsigner
  rw [precompile_accounts hdoc] at hentry
  rw [hunsigned.signers entry hentry] at hsigner
  cases hsigner

theorem fits_transfer (params : TransferParams) :
    (transfer crypto hex sdk params).Sends sdk (· ≤ packetLimit) := by
  refine Within.bind_right (within_okOr _ _) fun programId _ _ => ?_
  refine Within.bind_right (within_okOr _ _) fun hybridAccount _ _ => ?_
  refine Within.bind_right (within_okOr _ _) fun recipient _ _ => ?_
  refine Within.bind_right (sends_loadEd25519 crypto) fun ed _ _ => ?_
  refine Within.bind_right sends_loadFalcon fun falcon _ _ => ?_
  refine Within.bind_right (sends_resolveNonce crypto) fun nonce _ _ => ?_
  refine Within.bind_right sends_signFalcon fun wire _ _ => ?_
  refine Within.bind_right (within_client _) fun ix _ hix => ?_
  have hbuilt := (path_client.mp hix).2
  have hshape : ix.shape = (3, 716) := by
    obtain ⟨hsig, _, _, -, rfl⟩ := executeInstruction_ok hbuilt
    exact shape_signed hsig
  refine Within.bind_right (fits_submit_pair hdoc (unsigned_execute hbuilt) hshape (by decide))
    fun _ _ _ => ?_
  exact Within.bind_right (sends_writeOut crypto) fun _ _ _ => .pure _

theorem fits_signLifecycle {params : LifecycleParams} {action : Action}
    {buildIx : Pubkey → Pubkey → AuthorizationIntent → List UInt8 → ClientRes Instruction}
    (hbuild : ∀ p v n wire ix, buildIx p v (signingIntent p v n params.expirySlot action) wire =
      .ok ix → ix.Unsigned ∧ ix.shape = (2, 716)) :
    (signLifecycle crypto hex sdk params action buildIx).Sends sdk (· ≤ packetLimit) := by
  refine Within.bind_right (within_okOr _ _) fun programId _ _ => ?_
  refine Within.bind_right (within_okOr _ _) fun hybridAccount _ _ => ?_
  refine Within.bind_right (sends_loadEd25519 crypto) fun ed _ _ => ?_
  refine Within.bind_right sends_loadFalcon fun falcon _ _ => ?_
  refine Within.bind_right (sends_resolveNonce crypto) fun nonce _ _ => ?_
  refine Within.bind_right sends_signFalcon fun wire _ _ => ?_
  refine Within.bind_right (within_client _) fun ix _ hix => ?_
  obtain ⟨hunsigned, hshape⟩ := hbuild _ _ _ _ _ (path_client.mp hix).2
  refine Within.bind_right (fits_submit_pair hdoc hunsigned hshape (by decide)) fun _ _ _ => ?_
  exact Within.bind_right (sends_writeOut crypto) fun _ _ _ => .pure _

theorem fits_changePolicy (params : LifecycleParams) (policy : AuthorizationPolicy)
    (threshold : UInt64) :
    (changePolicy crypto hex sdk params policy threshold).Sends sdk (· ≤ packetLimit) := by
  refine fits_signLifecycle hdoc fun p v n wire ix hix => ⟨unsigned_changePolicy hix, ?_⟩
  obtain ⟨hsig, rfl⟩ := changePolicyInstruction_ok hix
  exact shape_signed hsig

theorem fits_recoverEnable (params : LifecycleParams) :
    (recoverEnable crypto hex sdk params).Sends sdk (· ≤ packetLimit) := by
  have hop : RecoveryOp.enable ≠ .rotateEd25519 := by decide
  exact fits_signLifecycle hdoc fun p v n wire ix hix =>
    ⟨unsigned_recoverAccount hix, shape_recoverFlag rfl hop hix⟩

theorem fits_recoverDisable (params : LifecycleParams) :
    (recoverDisable crypto hex sdk params).Sends sdk (· ≤ packetLimit) := by
  have hop : RecoveryOp.disable ≠ .rotateEd25519 := by decide
  exact fits_signLifecycle hdoc fun p v n wire ix hix =>
    ⟨unsigned_recoverAccount hix, shape_recoverFlag rfl hop hix⟩

theorem fits_rotateEd25519 (params : LifecycleParams) (newOwner : String) :
    (rotateEd25519 P crypto hex sdk params newOwner).Sends sdk (· ≤ packetLimit) := by
  refine Within.bind_right (within_okOr _ _) fun newPubkey _ _ => ?_
  refine Within.bind_right (within_okOr _ _) fun programId _ _ => ?_
  refine Within.bind_right (within_okOr _ _) fun hybridAccount _ _ => ?_
  refine Within.bind_right (within_client _) fun ⟨recoveryConfig, _⟩ _ _ => ?_
  refine Within.bind_right (sends_loadEd25519 crypto) fun ed _ _ => ?_
  refine Within.bind_right sends_loadFalcon fun falcon _ _ => ?_
  refine Within.bind_right (sends_resolveNonce crypto) fun nonce _ _ => ?_
  refine Within.bind_right sends_signFalcon fun wire _ _ => ?_
  refine Within.bind_right (within_client _) fun ix _ hix => ?_
  have hbuilt := (path_client.mp hix).2
  have hshape : ix.shape = (3, 716) := by
    obtain ⟨hsig, rfl⟩ := rotateEd25519Instruction_ok hbuilt
    exact shape_signed hsig
  refine Within.bind_right (fits_submit_pair hdoc (unsigned_rotateEd25519 hbuilt) hshape
    (by decide)) fun _ _ _ => ?_
  exact Within.bind_right (sends_writeOut crypto) fun _ _ _ => .pure _

theorem fits_socialCancel (params : LifecycleParams) :
    (socialCancel P crypto hex sdk params).Sends sdk (· ≤ packetLimit) := by
  refine Within.bind_right (within_okOr _ _) fun programId _ _ => ?_
  refine Within.bind_right (within_okOr _ _) fun hybridAccount _ _ => ?_
  refine Within.bind_right (within_client _) fun ⟨recoveryConfig, _⟩ _ _ => ?_
  refine Within.bind_right (sends_loadEd25519 crypto) fun ed _ _ => ?_
  refine Within.bind_right sends_loadFalcon fun falcon _ _ => ?_
  refine Within.bind_right (sends_resolveNonce crypto) fun nonce _ _ => ?_
  refine Within.bind_right sends_signFalcon fun wire _ _ => ?_
  refine Within.bind_right (within_client _) fun ix _ hix => ?_
  have hbuilt := (path_client.mp hix).2
  have hshape : ix.shape = (3, 716) := by
    obtain ⟨hsig, rfl⟩ := cancelSocialRecoveryInstruction_ok hbuilt
    exact shape_signed hsig
  refine Within.bind_right (fits_submit_pair hdoc (unsigned_cancel hbuilt) hshape (by decide))
    fun _ _ _ => ?_
  exact Within.bind_right (sends_writeOut crypto) fun _ _ _ => .pure _

theorem fits_recoverRotateEd25519 (params : LifecycleParams) (newOwner : String) :
    (recoverRotateEd25519 P crypto hex sdk params newOwner).Sends sdk (· ≤ packetLimit) := by
  refine Within.bind_right (within_okOr _ _) fun newEd25519 _ _ => ?_
  refine Within.bind_right (within_okOr _ _) fun programId _ _ => ?_
  refine Within.bind_right (within_okOr _ _) fun hybridAccount _ _ => ?_
  refine Within.bind_right (within_client _) fun ⟨recoveryConfig, _⟩ _ _ => ?_
  refine Within.bind_right sends_loadFalcon fun falcon _ _ => ?_
  refine Within.bind_right (sends_resolveNonce crypto) fun nonce _ _ => ?_
  refine Within.bind_right sends_signFalcon fun wire _ _ => ?_
  refine Within.bind_right (within_client _) fun ix _ hix => ?_
  have hbuilt := (path_client.mp hix).2
  refine Within.bind_right (fits_submit_one hdoc (unsigned_recoverAccount hbuilt)
    (shape_recoverRotate rfl hbuilt) (by decide)) fun _ _ _ => ?_
  exact Within.bind_right (sends_writeOut crypto) fun _ _ _ => .pure _

theorem fits_socialInitiate (params : InitiateParams) :
    (socialInitiate P crypto hex sdk params).Sends sdk (· ≤ packetLimit) := by
  refine Within.bind_right (within_okOr _ _) fun programId _ _ => ?_
  refine Within.bind_right (within_okOr _ _) fun hybridAccount _ _ => ?_
  refine Within.bind_right (within_okOr _ _) fun newEd25519 _ _ => ?_
  refine Within.bind_right (within_client _) fun ⟨recoveryConfig, _⟩ _ _ => ?_
  refine Within.bind_right (sends_loadEd25519 crypto) fun guardian _ _ => ?_
  refine Within.bind_right (sends_resolveNonce crypto) fun nonce _ _ => ?_
  refine Within.bind_right (fits_submit_pair hdoc unsigned_initiate shape_initiate (by decide))
    fun _ _ _ => ?_
  exact Within.bind_right (sends_writeOut crypto) fun _ _ _ => .pure _

theorem fits_socialFinalize (params : FinalizeParams) :
    (socialFinalize P crypto hex sdk params).Sends sdk (· ≤ packetLimit) := by
  refine Within.bind_right (within_okOr _ _) fun programId _ _ => ?_
  refine Within.bind_right (within_okOr _ _) fun hybridAccount _ _ => ?_
  refine Within.bind_right (within_client _) fun ⟨recoveryConfig, _⟩ _ _ => ?_
  refine Within.bind_right (fits_submit_one hdoc unsigned_finalize shape_finalize (by decide))
    fun _ _ _ => ?_
  exact Within.bind_right (sends_writeOut crypto) fun _ _ _ => .pure _

/-- The payer signs for the recovery config, and is one of the keys. -/
theorem fits_socialSetConfig (params : LifecycleParams) (guardian : String) (delaySlots : UInt64) :
    (socialSetConfig P crypto hex sdk params guardian delaySlots).Sends sdk (· ≤ packetLimit) := by
  refine Within.bind_right (within_okOr _ _) fun programId _ _ => ?_
  refine Within.bind_right (within_okOr _ _) fun hybridAccount _ _ => ?_
  refine Within.bind_right (within_okOr _ _) fun guardianEd25519 _ _ => ?_
  refine Within.bind_right (within_client _) fun ⟨recoveryConfig, _⟩ _ _ => ?_
  refine Within.bind_right (sends_loadEd25519 crypto) fun ed _ _ => ?_
  refine Within.bind_right sends_loadFalcon fun falcon _ _ => ?_
  refine Within.bind_right (sends_resolveNonce crypto) fun nonce _ _ => ?_
  refine Within.bind_right sends_signFalcon fun wire _ _ => ?_
  refine Within.ite (fun hb => ?_) fun hb => ?_
  · refine Within.bind_right (within_client _) fun ⟨url, payerPath⟩ _ _ => ?_
    refine Within.bind_right (sends_loadPayer crypto) fun payer _ _ => ?_
    refine Within.bind_right (within_client _) fun ix _ hix => ?_
    obtain ⟨hsig, rfl⟩ := setRecoveryConfigInstruction_ok (path_client.mp hix).2
    refine Within.bind_right ?_ fun sig _ _ =>
      Within.bind_right (sends_writeOut crypto) fun _ _ _ => .pure _
    refine sends_sendInstructions hdoc fun blockhash log tx htx => ?_
    have hlargest : largestSize [(0, 144), (5, 716)] ≤ packetLimit := by decide
    refine fits_of_shapes hdoc (shapes_pair hdoc (shape_signed hsig)) ?_ ?_ htx
    · exact hlargest
    · rw [precompile_accounts hdoc]
      simp [AccountMeta.new, AccountMeta.newReadonly]
  · refine Within.bind_right (within_client _) fun ix _ _ => ?_
    exact Within.bind_right (sends_writeOut crypto) fun _ _ _ => .pure _

/-- The creator signs for the vault, and must be the payer. -/
theorem fits_init (params : InitParams) :
    (init P crypto hex sdk params).Sends sdk (· ≤ packetLimit) := by
  refine Within.bind_right (within_okOr _ _) fun programId _ _ => ?_
  refine Within.bind_right (within_okOr _ _) fun creator _ _ => ?_
  refine Within.bind_right (sends_loadPublic crypto) fun keys _ _ => ?_
  refine Within.bind_right (within_client _) fun ⟨instruction, hybridAccount, bump⟩ _ hix => ?_
  obtain ⟨-, hlen, rfl⟩ := initializeInstruction_ok (path_client.mp hix).2
  refine Within.bind_right ?_ fun signature _ _ =>
    Within.bind_right (sends_writeOut crypto) fun _ _ _ => .pure _
  unfold submitInit
  refine Within.ite (fun _ => ?_) fun _ => .pure _
  refine Within.bind_right (within_client _) fun ⟨url, payerPath⟩ _ _ => ?_
  refine Within.bind_right (sends_loadPayer crypto) fun payer _ _ => ?_
  refine Within.bind_right (within_failIf _ _) fun _ _ hcreator => ?_
  have heq : payer.publicBytes crypto = creator := not_not.mp (path_failIf.mp hcreator).2
  refine Within.bind_right (sends_sendInstructions hdoc fun blockhash log tx htx => ?_)
    fun _ _ _ => .pure _
  refine fits_of_shapes hdoc (shapes_one (shape_initAccounts hlen)) (by decide) ?_ htx
  simp [AccountMeta.new, AccountMeta.newReadonly, heq]

/-- **Everything else fits.** Every transaction that a command other than `transfer-spl` sends fits
a packet, on every path, whatever the file system and the cluster answer, and whichever accounts
coincide. -/
theorem sent_fits {cmd : Command} (hcmd : ∀ params, cmd ≠ .transferSpl params)
    {log : Log (Io.Answer Coins)} {r : Except CommandError Built}
    (h : Path (cmd.run P crypto hex sdk) log r) :
    ∀ entry ∈ log, entry.1.Sends sdk (· ≤ packetLimit) := by
  have hsends : (cmd.run P crypto hex sdk).Sends sdk (· ≤ packetLimit) := by
    cases cmd with
    | init params => exact fits_init hdoc params
    | transfer params => exact fits_transfer hdoc params
    | changePolicy params policy threshold => exact fits_changePolicy hdoc params _ _
    | rotateEd25519 params newOwner => exact fits_rotateEd25519 hdoc params _
    | recoverEnable params => exact fits_recoverEnable hdoc params
    | recoverDisable params => exact fits_recoverDisable hdoc params
    | recoverRotateEd25519 params newOwner => exact fits_recoverRotateEd25519 hdoc params _
    | transferSpl params => exact absurd rfl (hcmd params)
    | rotateFalcon params newFalconKeys =>
      -- it never gets to send
      exact sends_of_confined crypto _ (confined_rotateFalcon params newFalconKeys)
    | socialSetConfig params guardian delaySlots => exact fits_socialSetConfig hdoc params _ _
    | socialInitiate params => exact fits_socialInitiate hdoc params
    | socialFinalize params => exact fits_socialFinalize hdoc params
    | socialCancel params => exact fits_socialCancel hdoc params
  exact (hsends log r h).1

end Fits

/-! ### What `transfer-spl` sends -/

/-- The accounts of a token transfer: the vault, two token accounts and their mint, three programs
and the sysvar. -/
def TransferSplParams.accounts (params : TransferSplParams)
    (programId vault source mint destination : Pubkey) : List Pubkey :=
  [vault, source, mint, destination, programId,
    if params.token2022 then token2022ProgramId else tokenProgramId, instructionsSysvarId,
    ed25519ProgramId]

/-- Where the accounts differ, the message has eight keys besides those of creator and payer. -/
theorem exceeds_tokenTransfer (hdoc : sdk.Documented) {payer ed : Ed25519Keypair}
    {digest : Digest} {intent : AuthorizationIntent} {falconSig : List UInt8} {ix : Instruction}
    {programId vault creator source mint destination tokenProgram : Pubkey} {amount : UInt64}
    {blockhash : ByteVec 32} {tx : Transaction} {log : Log (Io.Answer Coins)}
    (haction : intent.action = .transferSpl destination amount)
    (hix : executeTransferSplInstructionWithProgram programId vault creator source mint tokenProgram
      intent falconSig = .ok ix)
    (hdistinct : [vault, source, mint, destination, programId, tokenProgram, instructionsSysvarId,
      ed25519ProgramId].Nodup)
    (htx : Path (signLegacyTransaction crypto sdk payer
      [ed25519PrecompileInstruction crypto sdk ed digest, ix] blockhash) log (.ok tx)) :
    packetLimit < tx.bytes.length := by
  obtain ⟨hsig, _, _, haction', rfl⟩ := executeTransferSplInstructionWithProgram_ok hix
  obtain ⟨rfl, -⟩ := Action.transferSpl.inj (haction.symm.trans haction')
  set ixs := [ed25519PrecompileInstruction crypto sdk ed digest,
    ⟨programId, _, signedData executeDiscriminator intent falconSig⟩] with hixs
  have hshapes : ixs.map Instruction.shape = [(0, 144), (7, 716)] :=
    shapes_pair hdoc (shape_signed hsig)
  have hnamed := length_namedKeys_shape hshapes
  have hsize := length_legacyTransaction hdoc (by rw [hnamed]; decide) ?_ htx
  · -- all eight are keys of the message, whichever the payer is
    have hsubset : [vault, source, mint, destination, programId, tokenProgram,
        instructionsSysvarId, ed25519ProgramId].toFinset ⊆
        messageKeys ixs (payer.publicBytes crypto) := by
      intro k hk
      simp [hixs, messageKeys, namedKeys, ed25519PrecompileInstruction,
        hdoc.newEd25519Instruction, ed25519Instruction, AccountMeta.new,
        AccountMeta.newReadonly] at hk ⊢
      tauto
    have hcard := Finset.card_le_card hsubset
    rw [List.toFinset_card_of_nodup hdistinct] at hcard
    rw [hsize, hshapes]
    simp [shapeBytes, compactWidth, packetLimit] at hcard ⊢
    omega
  · -- and none of them is asked to sign
    rw [hixs, precompile_accounts hdoc]
    simp [AccountMeta.new, AccountMeta.newReadonly]

/-- **A token transfer is never sent in a packet.** Where vault, source, mint, destination and
program are different accounts, every transaction that `transfer-spl` sends is larger than a
packet, whoever pays for it, and whatever the file system and the cluster answer. -/
theorem token_transfer_exceeds (hdoc : sdk.Documented) {params : TransferSplParams}
    {programId vault source mint destination : Pubkey} {log : Log (Io.Answer Coins)}
    {r : Except CommandError Built}
    (hprogram : sdk.parsePubkey params.programId = some programId)
    (hvault : sdk.parsePubkey params.hybridAccount = some vault)
    (hsource : sdk.parsePubkey params.source = some source)
    (hmint : sdk.parsePubkey params.mint = some mint)
    (hdestination : sdk.parsePubkey params.destination = some destination)
    (hdistinct : (params.accounts programId vault source mint destination).Nodup)
    (h : Path ((Command.transferSpl params).run P crypto hex sdk) log r) :
    ∀ entry ∈ log, entry.1.Sends sdk (packetLimit < ·) := by
  have hsends : (transferSpl crypto hex sdk params).Sends sdk (packetLimit < ·) := by
    refine Within.bind_right (within_okOr _ _) fun programId' _ hp => ?_
    obtain rfl := Option.some.inj (hprogram.symm.trans (path_okOr.mp hp).2)
    refine Within.bind_right (within_okOr _ _) fun vault' _ hv => ?_
    obtain rfl := Option.some.inj (hvault.symm.trans (path_okOr.mp hv).2)
    refine Within.bind_right (within_okOr _ _) fun creator _ _ => ?_
    refine Within.bind_right (within_okOr _ _) fun source' _ hs => ?_
    obtain rfl := Option.some.inj (hsource.symm.trans (path_okOr.mp hs).2)
    refine Within.bind_right (within_okOr _ _) fun mint' _ hm => ?_
    obtain rfl := Option.some.inj (hmint.symm.trans (path_okOr.mp hm).2)
    refine Within.bind_right (within_okOr _ _) fun destination' _ hd => ?_
    obtain rfl := Option.some.inj (hdestination.symm.trans (path_okOr.mp hd).2)
    refine Within.bind_right (sends_loadEd25519 crypto) fun ed _ _ => ?_
    refine Within.bind_right sends_loadFalcon fun falcon _ _ => ?_
    refine Within.bind_right (sends_resolveNonce crypto) fun nonce _ _ => ?_
    refine Within.bind_right sends_signFalcon fun wire _ _ => ?_
    refine Within.bind_right (within_client _) fun ix _ hix => ?_
    refine Within.bind_right (sends_submitIf hdoc ?_) fun signature _ _ => ?_
    · exact fun payer blockhash log tx htx =>
        exceeds_tokenTransfer hdoc rfl (path_client.mp hix).2 hdistinct htx
    · exact Within.bind_right (sends_writeOut crypto) fun _ _ _ => .pure _
  exact (hsends log r h).1

end General

namespace SampleDeployment

open Sample

/-- Tokens of the hybrid vault, with five accounts that all differ. -/
def transferSplParams : TransferSplParams where
  keysDir := ["keys"]
  programId := "US517G5965aydkZ46HS38QLi7UQiSojurfbQfKCELFx"
  hybridAccount := "HmHdGdnRJ8wMqwHQ2dVsjhLTHL6kNB26WgzqwQy9bH9v"
  creator := "EdmxWPmx2WH6WgFfTdu9xfkYf3k1g5wD1zccTVySEEh1"
  source := "3NAM1YJMhSPvtAkmGTRABe1hYZN3aE2hZHKy3JZy9fHk"
  mint := "3EKkiwNLWqoUbzFkPrmKbtUB4EweE6f4STzevYUmezeL"
  destination := "3ZvESShPULHcJSWHaMPv4GKzH2zebR6AEWKwDShmPfFs"
  amount := 1
  nonce := some 0
  expirySlot := 100
  token2022 := false
  broadcast := ⟨false, none, none⟩
  out := none

/-- The same, sent. -/
def sentSplParams : TransferSplParams :=
  { transferSplParams with
    broadcast := ⟨true, some "http://127.0.0.1:8899", some ["payer.json"]⟩ }

/-- The end of a recovery, sent. -/
def sentFinalizeParams : FinalizeParams where
  programId := enableParams.programId
  hybridAccount := enableParams.hybridAccount
  broadcast := sentSplParams.broadcast
  out := none

/-- A byte array as JSON, without spaces. -/
def parseNumbers (text : List UInt8) : List UInt8 :=
  ((text.filter fun b => b ≠ 91 && b ≠ 93).splitOn 44).map fun digits =>
    UInt8.ofNat (digits.foldl (fun n d => 10 * n + (d.toNat - 48)) 0)

def payerSdk : Sdk := { SampleSdk.sdk with bytesFromJson := fun text => .ok (parseNumbers text) }

theorem payerSdk_documented : payerSdk.Documented where
  newMessage := SampleSdk.sdk_documented.newMessage
  serializeMessage := SampleSdk.sdk_documented.serializeMessage
  serializeTransaction := SampleSdk.sdk_documented.serializeTransaction
  newEd25519Instruction := SampleSdk.sdk_documented.newEd25519Instruction

/-- The directories with the keys, the guardian's keypair as the payer's, and a cluster that
refuses every transaction. -/
def refusing : (q : Io) → Unit → Io.Answer Unit q × Unit
  | .readFile path, s =>
    if path = ["payer.json"] then
      (.ok (SampleSdk.printBytes (guardian.toList ++ guardian.toList)).toUTF8.toList, ())
    else answer (.readFile path) s
  | .post _ body, _ =>
    let reply : JsonRpcResponse := match body.get "method" with
      | some (.str "getLatestBlockhash") =>
        ⟨some (.obj [("value", .obj [("blockhash",
          .str "3NAM1YJMhSPvtAkmGTRABe1hYZN3aE2hZHKy3JZy9fHk")])]), none⟩
      | _ => ⟨none, some (.str "transaction too large")⟩
    (.ok reply, ())
  | q, s => answer q s

end SampleDeployment

open SampleDeployment SampleCrypto SampleSdk in
/-- A token transfer that the guardian pays for: ten keys, and 65 bytes too many. -/
theorem packet_limit_token_transfer :
    ∃ log built tx wire, Path ((Command.transferSpl transferSplParams).run platform crypto
        Hex.standard sdk) log (.ok built) ∧
      Path (signLegacyTransaction crypto sdk guardianEd25519 built.instructions (ByteVec.zero 32)
        : Session Unit Transaction) [] (.ok tx) ∧
      sdk.serializeTransaction tx = .ok wire ∧ wire.length = packetLimit + 65 := by
  have hrun : ((run answer ((Command.transferSpl transferSplParams).run platform crypto
      Hex.standard sdk) ()).1.toOption.map fun built =>
        ((messageKeys built.instructions (guardianEd25519.publicBytes crypto)).card,
          (built.instructions.flatMap Instruction.accounts).any AccountMeta.isSigner)) =
      some (10, false) := by
    decide +kernel
  obtain ⟨built, log, hfacts, hpath, -⟩ := exists_path hrun
  obtain ⟨hcard, hunsigned⟩ := Prod.mk.inj hfacts
  have hsigners : ∀ entry ∈ built.instructions.flatMap Instruction.accounts,
      entry.isSigner = true → entry.pubkey = guardianEd25519.publicBytes crypto := by
    intro entry hentry hsigner
    have hany := List.any_eq_true.mpr ⟨entry, hentry, hsigner⟩
    rw [hunsigned] at hany
    cases hany
  obtain ⟨tx, htx⟩ : ∃ tx, Path (signLegacyTransaction crypto sdk guardianEd25519
      built.instructions (ByteVec.zero 32) : Session Unit Transaction) [] (.ok tx) :=
    ⟨_, .done _⟩
  obtain ⟨wire, hwire, hlength, -⟩ := packet_limit sdk_documented hpath hsigners htx
  refine ⟨log, built, tx, wire, hpath, htx, hwire, ?_⟩
  rw [hlength, hcard]
  rfl

open SampleDeployment SampleCrypto in
/-- A transaction is sent to end a recovery, and it fits. -/
theorem sent_fits_finalize :
    ∃ entry ∈ transcript refusing ((Command.socialFinalize sentFinalizeParams).run
        SampleDeployment.platform crypto Hex.standard payerSdk) (),
      entry.1.isSend = true ∧ entry.1.Sends payerSdk (· ≤ packetLimit) := by
  have hsent : (transcript refusing ((Command.socialFinalize sentFinalizeParams).run
      SampleDeployment.platform crypto Hex.standard payerSdk) ()).any
        (fun entry => entry.1.isSend) = true := by
    decide +kernel
  obtain ⟨entry, hentry, hsend⟩ := List.any_eq_true.mp hsent
  have hcmd (params : TransferSplParams) :
      Command.socialFinalize sentFinalizeParams ≠ .transferSpl params := nofun
  exact ⟨entry, hentry, hsend,
    sent_fits payerSdk_documented hcmd (path_run _ ()) entry hentry⟩

open SampleDeployment SampleCrypto Sample in
/-- A transaction is sent, and it is too large. -/
theorem token_transfer_exceeds_sent :
    ∃ entry ∈ transcript refusing ((Command.transferSpl sentSplParams).run
        SampleDeployment.platform crypto Hex.standard payerSdk) (),
      entry.1.isSend = true ∧ entry.1.Sends payerSdk (packetLimit < ·) := by
  -- the run gets as far as the broadcast
  have hsent : (transcript refusing ((Command.transferSpl sentSplParams).run
      SampleDeployment.platform crypto Hex.standard payerSdk) ()).any
        (fun entry => entry.1.isSend) = true := by
    decide +kernel
  obtain ⟨entry, hentry, hsend⟩ := List.any_eq_true.mp hsent
  refine ⟨entry, hentry, hsend, ?_⟩
  have hprogram : payerSdk.parsePubkey sentSplParams.programId =
      some SampleDeployment.platform.programId := by
    decide +kernel
  have hvault : payerSdk.parsePubkey sentSplParams.hybridAccount = some hybridVault := by
    decide +kernel
  have hsource : payerSdk.parsePubkey sentSplParams.source = some firstSourceA := by decide +kernel
  have hmint : payerSdk.parsePubkey sentSplParams.mint = some mintA := by decide +kernel
  have hdestination : payerSdk.parsePubkey sentSplParams.destination = some destination := by
    decide +kernel
  have hdistinct : (sentSplParams.accounts SampleDeployment.platform.programId hybridVault
      firstSourceA mintA destination).Nodup := by
    decide +kernel
  exact token_transfer_exceeds payerSdk_documented hprogram hvault hsource hmint hdestination
    hdistinct (path_run _ ()) entry hentry

end DualKey
