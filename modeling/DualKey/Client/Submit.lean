import DualKey.Client.Onchain
import DualKey.Client.Rpc
import DualKey.Core.Recovery

/-!
# The commands that build transactions

Every command parses its addresses, loads the keys it signs with, finds out the nonce, signs an
intent, and builds one instruction of the program, with a precompile instruction before it where
an Ed25519 signature goes along. With `--broadcast` the payer signs the transaction and it is
sent. The commands return what they print, as a `Built`, and write it to `--out` as JSON.
-/

namespace DualKey

open Hex (Codec)
open Session Client

variable {Coins : Type} (P : Platform) (crypto : Crypto Coins) (hex : Codec) (sdk : Sdk)

/-- What a command has built: the signed digest and its nonce, if there is one, the instructions
in the order of the transaction, and the transaction's signature if it was submitted. -/
structure Built where
  digest : Option Digest
  nonce : Option UInt64
  instructions : List Instruction
  signature : Option String
deriving DecidableEq

/-- Parameters of the commands that carry an intent. -/
structure LifecycleParams where
  keysDir : PathBuf
  programId : String
  hybridAccount : String
  nonce : Option UInt64
  expirySlot : UInt64
  broadcast : BroadcastOpts
  out : Option PathBuf

/-! ### Shared steps -/

def parsePubkey (field value : String) : Session Coins Pubkey :=
  okOr (sdk.parsePubkey value) (.invalidAddress field)

/-- The nonce that was given, or the one the vault stores on chain. -/
def resolveNonce (hybrid : Pubkey) (nonce : Option UInt64) (broadcast : BroadcastOpts) :
    Session Coins UInt64 :=
  match nonce with
  | some n => pure n
  | none => do
    let url ← okOr broadcast.rpcUrl (.client (.intentFormat "nonce"
      "--nonce required unless --rpc-url is set (reads HybridAccount nonce)"))
    (⟨url⟩ : Rpc).getHybridNonce sdk hybrid

/-- The digest of an intent. -/
def canonicalDigest (intent : AuthorizationIntent) : Digest :=
  crypto.sha256 (canonicalPreimage intent).toList

/-- The digest of a guardian's proposal. -/
def socialRecoverDigest (chainDomain : ByteVec 32) (programId account newEd25519 : Pubkey)
    (nonce : UInt64) : Digest :=
  crypto.sha256 (socialRecoverPreimage chainDomain programId account newEd25519 nonce).toList

/-- The precompile instruction with the signature of the key pair over the digest. -/
def ed25519PrecompileInstruction (ed : Ed25519Keypair) (digest : Digest) : Instruction :=
  sdk.newEd25519Instruction digest.toList (crypto.ed25519.sign ed.signing digest.toList)
    (ed.publicBytes crypto)

/-- One Falcon signature. It is not tried again when it does not fit the wire. -/
def signFalcon (falcon : FalconKeypair) (digest : Digest) : Session Coins (List UInt8) := do
  let coins ← falconCoins
  let (_, wire) ← client (crypto.falcon.signToWire coins digest.toList falcon.secretKey)
  pure wire.asWireBytes.toList

/-- With `--broadcast`, sign the transaction as its payer and send it. -/
def submitIf (broadcast : BroadcastOpts) (instructions : List Instruction) :
    Session Coins (Option String) :=
  if broadcast.broadcast then do
    let (url, payerPath) ← client broadcast.requireForBroadcast
    let payer ← loadPayer sdk payerPath
    let sig ← sendInstructions crypto sdk ⟨url⟩ payer instructions
    pure (some sig)
  else pure none

/-- Write an artifact. -/
def writeOut (out : Option PathBuf) (artifact : Json) : Session Coins Unit :=
  match out with
  | none => pure ()
  | some path => do
    let json ← mapErr (sdk.prettyJson artifact) .json
    writeWithMode path json publicMode

/-- The accounts of an instruction, as JSON. -/
def metas (ix : Instruction) : Json :=
  .arr (ix.accounts.map fun m => .obj [("pubkey", .str (sdk.printPubkey m.pubkey)),
    ("is_signer", .bool m.isSigner), ("is_writable", .bool m.isWritable)])

/-- A field that is left out where there is no value. -/
def optionalField (name : String) : Option String → List (String × Json)
  | some s => [(name, .str s)]
  | none => []

def hexField (name : String) (bytes : List UInt8) : String × Json := (name, .str (hex.encode bytes))

def u64Field (name : String) (n : UInt64) : String × Json := (name, .int n.toNat)

/-! ### `Initialize` -/

structure InitParams where
  keysDir : PathBuf
  accountIndex : UInt32
  programId : String
  creator : String
  policy : AuthorizationPolicy
  out : Option PathBuf
  broadcast : BroadcastOpts

/-- With `--broadcast`, the payer must be the creator, who signs the instruction. -/
def submitInit (broadcast : BroadcastOpts) (creator : Pubkey) (instruction : Instruction) :
    Session Coins (Option String) :=
  if broadcast.broadcast then do
    let (url, payerPath) ← client broadcast.requireForBroadcast
    let payer ← loadPayer sdk payerPath
    failIf (payer.publicBytes crypto ≠ creator)
      (.client (.intentFormat "payer" "payer pubkey must equal --creator for Initialize"))
    let sig ← sendInstructions crypto sdk ⟨url⟩ payer [instruction]
    pure (some sig)
  else pure none

/-- Build `Initialize`, from public keys alone. -/
def init (params : InitParams) : Session Coins Built := do
  let programId ← parsePubkey sdk "program_id" params.programId
  let creator ← parsePubkey sdk "creator" params.creator
  let keys ← PublicKeys.load ⟨params.keysDir⟩
  let (instruction, hybridAccount, bump) ← client (initializeInstruction P programId creator
    params.accountIndex keys.ed25519 params.policy keys.falconWire)
  let signature ← submitInit crypto sdk params.broadcast creator instruction
  writeOut sdk params.out (.obj ([
    ("format", .str "dualkey-initialize-v1"),
    ("program_id", .str (sdk.printPubkey programId)),
    ("creator", .str (sdk.printPubkey creator)),
    ("hybrid_account", .str (sdk.printPubkey hybridAccount)),
    ("bump", .int bump.toNat),
    ("account_index", .int params.accountIndex.toNat),
    ("policy", .int params.policy.asU8.toNat),
    ("policy_name", .str params.policy.name),
    hexField hex "owner_ed25519" keys.ed25519.toList,
    hexField hex "falcon512_public_key_sha256" (keys.falconPublicKeyHash crypto).toList,
    ("accounts", metas sdk instruction),
    ("data_len", .int instruction.data.length),
    hexField hex "data_hex" instruction.data] ++ optionalField "signature" signature))
  pure { digest := none, nonce := none, instructions := [instruction], signature }

/-! ### Transfers -/

structure TransferParams where
  keysDir : PathBuf
  programId : String
  hybridAccount : String
  recipient : String
  lamports : UInt64
  nonce : Option UInt64
  expirySlot : UInt64
  out : Option PathBuf
  broadcast : BroadcastOpts

def transfer (params : TransferParams) : Session Coins Built := do
  let programId ← parsePubkey sdk "program_id" params.programId
  let hybridAccount ← parsePubkey sdk "account" params.hybridAccount
  let recipient ← parsePubkey sdk "to" params.recipient
  let ed ← Ed25519Keypair.load ⟨params.keysDir⟩
  let falcon ← FalconKeypair.load crypto sdk ⟨params.keysDir⟩
  let nonce ← resolveNonce sdk hybridAccount params.nonce params.broadcast
  let intent := signingIntent programId hybridAccount nonce params.expirySlot
    (.transferSol recipient params.lamports)
  let digest := canonicalDigest crypto intent
  let wire ← signFalcon crypto falcon digest
  let edIx := ed25519PrecompileInstruction crypto sdk ed digest
  let execIx ← client (executeInstruction programId hybridAccount intent wire)
  let signature ← submitIf crypto sdk params.broadcast [edIx, execIx]
  writeOut sdk params.out (.obj ([
    ("format", .str "dualkey-transfer-v1"),
    ("program_id", .str (sdk.printPubkey programId)),
    ("hybrid_account", .str (sdk.printPubkey hybridAccount)),
    ("recipient", .str (sdk.printPubkey recipient)),
    u64Field "lamports" params.lamports,
    u64Field "nonce" nonce,
    u64Field "expiry_slot" params.expirySlot,
    hexField hex "digest" digest.toList,
    hexField hex "ed25519_precompile_data_hex" edIx.data,
    hexField hex "execute_data_hex" execIx.data,
    ("execute_accounts", metas sdk execIx)] ++ optionalField "signature" signature))
  pure { digest := some digest, nonce := some nonce, instructions := [edIx, execIx], signature }

structure TransferSplParams where
  keysDir : PathBuf
  programId : String
  hybridAccount : String
  creator : String
  source : String
  mint : String
  destination : String
  amount : UInt64
  nonce : Option UInt64
  expirySlot : UInt64
  token2022 : Bool
  broadcast : BroadcastOpts
  out : Option PathBuf

def transferSpl (params : TransferSplParams) : Session Coins Built := do
  let programId ← parsePubkey sdk "program_id" params.programId
  let hybridAccount ← parsePubkey sdk "account" params.hybridAccount
  let creator ← parsePubkey sdk "creator" params.creator
  let source ← parsePubkey sdk "source" params.source
  let mint ← parsePubkey sdk "mint" params.mint
  let destination ← parsePubkey sdk "destination" params.destination
  let tokenProgram := if params.token2022 then token2022ProgramId else tokenProgramId
  let ed ← Ed25519Keypair.load ⟨params.keysDir⟩
  let falcon ← FalconKeypair.load crypto sdk ⟨params.keysDir⟩
  let nonce ← resolveNonce sdk hybridAccount params.nonce params.broadcast
  let intent := signingIntent programId hybridAccount nonce params.expirySlot
    (.transferSpl destination params.amount)
  let digest := canonicalDigest crypto intent
  let wire ← signFalcon crypto falcon digest
  let edIx := ed25519PrecompileInstruction crypto sdk ed digest
  let execIx ← client (executeTransferSplInstructionWithProgram programId hybridAccount creator
    source mint tokenProgram intent wire)
  let signature ← submitIf crypto sdk params.broadcast [edIx, execIx]
  writeOut sdk params.out (.obj [
    hexField hex "digest" digest.toList,
    u64Field "nonce" nonce,
    ("token_program", .str (sdk.printPubkey tokenProgram)),
    hexField hex "ed25519_precompile_data_hex" edIx.data,
    hexField hex "execute_data_hex" execIx.data,
    ("signature", .ofOption signature)])
  pure { digest := some digest, nonce := some nonce, instructions := [edIx, execIx], signature }

/-! ### Instructions without a recovery config -/

/-- Sign an action with both schemes and build its instruction. -/
def signLifecycle (params : LifecycleParams) (action : Action)
    (buildIx : Pubkey → Pubkey → AuthorizationIntent → List UInt8 → ClientRes Instruction) :
    Session Coins Built := do
  let programId ← parsePubkey sdk "program_id" params.programId
  let hybridAccount ← parsePubkey sdk "account" params.hybridAccount
  let ed ← Ed25519Keypair.load ⟨params.keysDir⟩
  let falcon ← FalconKeypair.load crypto sdk ⟨params.keysDir⟩
  let nonce ← resolveNonce sdk hybridAccount params.nonce params.broadcast
  let intent := signingIntent programId hybridAccount nonce params.expirySlot action
  let digest := canonicalDigest crypto intent
  let wire ← signFalcon crypto falcon digest
  let edIx := ed25519PrecompileInstruction crypto sdk ed digest
  let ix ← client (buildIx programId hybridAccount intent wire)
  let signature ← submitIf crypto sdk params.broadcast [edIx, ix]
  writeOut sdk params.out (.obj [
    hexField hex "digest" digest.toList,
    u64Field "nonce" nonce,
    hexField hex "ed25519_precompile_data_hex" edIx.data,
    hexField hex "instruction_data_hex" ix.data,
    ("signature", .ofOption signature)])
  pure { digest := some digest, nonce := some nonce, instructions := [edIx, ix], signature }

def changePolicy (params : LifecycleParams) (newPolicy : AuthorizationPolicy)
    (threshold : UInt64) : Session Coins Built :=
  signLifecycle crypto hex sdk params (.changePolicy newPolicy.asU8 threshold)
    changePolicyInstruction

def recoverEnable (params : LifecycleParams) : Session Coins Built :=
  signLifecycle crypto hex sdk params (.recoverAccount .enable (ByteVec.zero 32))
    fun programId hybrid intent falcon =>
      recoverAccountInstruction programId hybrid intent falcon none

def recoverDisable (params : LifecycleParams) : Session Coins Built :=
  signLifecycle crypto hex sdk params (.recoverAccount .disable (ByteVec.zero 32))
    fun programId hybrid intent falcon =>
      recoverAccountInstruction programId hybrid intent falcon none

/-! ### Rotations -/

/-- With Falcon alone: the Ed25519 key may be gone, and is not read. -/
def recoverRotateEd25519 (params : LifecycleParams) (newOwner : String) : Session Coins Built := do
  let newEd25519 ← parsePubkey sdk "new-owner" newOwner
  let programId ← parsePubkey sdk "program_id" params.programId
  let hybridAccount ← parsePubkey sdk "account" params.hybridAccount
  let (recoveryConfig, _) ← client (deriveRecoveryConfig P programId hybridAccount)
  let falcon ← FalconKeypair.load crypto sdk ⟨params.keysDir⟩
  let nonce ← resolveNonce sdk hybridAccount params.nonce params.broadcast
  let intent := signingIntent programId hybridAccount nonce params.expirySlot
    (.recoverAccount .rotateEd25519 newEd25519)
  let digest := canonicalDigest crypto intent
  let wire ← signFalcon crypto falcon digest
  let ix ← client (recoverAccountInstruction programId hybridAccount intent wire
    (some recoveryConfig))
  let signature ← submitIf crypto sdk params.broadcast [ix]
  writeOut sdk params.out (.obj [
    hexField hex "digest" digest.toList,
    u64Field "nonce" nonce,
    ("recovery_config", .str (sdk.printPubkey recoveryConfig)),
    hexField hex "instruction_data_hex" ix.data,
    ("signature", .ofOption signature)])
  pure { digest := some digest, nonce := some nonce, instructions := [ix], signature }

def rotateEd25519 (params : LifecycleParams) (newOwner : String) : Session Coins Built := do
  let newPubkey ← parsePubkey sdk "new-owner" newOwner
  let programId ← parsePubkey sdk "program_id" params.programId
  let hybridAccount ← parsePubkey sdk "account" params.hybridAccount
  let (recoveryConfig, _) ← client (deriveRecoveryConfig P programId hybridAccount)
  let ed ← Ed25519Keypair.load ⟨params.keysDir⟩
  let falcon ← FalconKeypair.load crypto sdk ⟨params.keysDir⟩
  let nonce ← resolveNonce sdk hybridAccount params.nonce params.broadcast
  let intent := signingIntent programId hybridAccount nonce params.expirySlot
    (.rotateEd25519Key newPubkey)
  let digest := canonicalDigest crypto intent
  let wire ← signFalcon crypto falcon digest
  let edIx := ed25519PrecompileInstruction crypto sdk ed digest
  let ix ← client (rotateEd25519Instruction programId hybridAccount recoveryConfig intent wire)
  let signature ← submitIf crypto sdk params.broadcast [edIx, ix]
  writeOut sdk params.out (.obj [
    hexField hex "digest" digest.toList,
    u64Field "nonce" nonce,
    ("recovery_config", .str (sdk.printPubkey recoveryConfig)),
    hexField hex "ed25519_precompile_data_hex" edIx.data,
    hexField hex "instruction_data_hex" ix.data,
    ("signature", .ofOption signature)])
  pure { digest := some digest, nonce := some nonce, instructions := [edIx, ix], signature }

/-- Offline only: the instruction does not fit a legacy transaction. -/
def rotateFalcon (params : LifecycleParams) (newFalconKeys : PathBuf) : Session Coins Built := do
  failIf (params.broadcast.broadcast = true) (.client (.intentFormat "broadcast"
    ("RotateFalconKey instruction data is ~2279 bytes and cannot fit a legacy transaction; " ++
      "omit --broadcast and use --out (v0 + ALT submission is out of scope)")))
  let programId ← parsePubkey sdk "program_id" params.programId
  let hybridAccount ← parsePubkey sdk "account" params.hybridAccount
  let ed ← Ed25519Keypair.load ⟨params.keysDir⟩
  let falcon ← FalconKeypair.load crypto sdk ⟨params.keysDir⟩
  let newFalcon ← FalconKeypair.load crypto sdk ⟨newFalconKeys⟩
  let newWire := newFalcon.publicKey
  let newPubkeyHash := crypto.sha256 newWire
  let nonce ← resolveNonce sdk hybridAccount params.nonce params.broadcast
  let intent := signingIntent programId hybridAccount nonce params.expirySlot
    (.rotateFalconKey newPubkeyHash)
  let digest := canonicalDigest crypto intent
  let authWire ← signFalcon crypto falcon digest
  let popWire ← signFalcon crypto newFalcon digest
  let edIx := ed25519PrecompileInstruction crypto sdk ed digest
  let ix ← client (rotateFalconInstruction programId hybridAccount intent authWire newWire popWire)
  writeOut sdk params.out (.obj [
    hexField hex "digest" digest.toList,
    u64Field "nonce" nonce,
    hexField hex "new_falcon_public_key_sha256" newPubkeyHash.toList,
    hexField hex "ed25519_precompile_data_hex" edIx.data,
    hexField hex "instruction_data_hex" ix.data])
  pure { digest := some digest, nonce := some nonce, instructions := [edIx, ix], signature := none }

/-! ### Social recovery -/

/-- The artifact of `social set-config`, with the signature once it was submitted. -/
def setConfigArtifact (digest : Digest) (nonce : UInt64) (recoveryConfig : Pubkey)
    (edIx ix : Instruction) (signature : List (String × Json)) : Json :=
  .obj ([
    hexField hex "digest" digest.toList,
    u64Field "nonce" nonce,
    ("recovery_config", .str (sdk.printPubkey recoveryConfig)),
    hexField hex "ed25519_precompile_data_hex" edIx.data,
    hexField hex "instruction_data_hex" ix.data] ++ signature)

/-- Set a guardian and a delay. Offline the payer is a placeholder of zeros, which the signatures
do not cover. -/
def socialSetConfig (params : LifecycleParams) (guardian : String) (delaySlots : UInt64) :
    Session Coins Built := do
  let programId ← parsePubkey sdk "program_id" params.programId
  let hybridAccount ← parsePubkey sdk "account" params.hybridAccount
  let guardianEd25519 ← parsePubkey sdk "guardian" guardian
  let (recoveryConfig, _) ← client (deriveRecoveryConfig P programId hybridAccount)
  let ed ← Ed25519Keypair.load ⟨params.keysDir⟩
  let falcon ← FalconKeypair.load crypto sdk ⟨params.keysDir⟩
  let nonce ← resolveNonce sdk hybridAccount params.nonce params.broadcast
  let intent := signingIntent programId hybridAccount nonce params.expirySlot
    (.setRecoveryConfig guardianEd25519 delaySlots)
  let digest := canonicalDigest crypto intent
  let wire ← signFalcon crypto falcon digest
  let edIx := ed25519PrecompileInstruction crypto sdk ed digest
  if params.broadcast.broadcast then do
    let (url, payerPath) ← client params.broadcast.requireForBroadcast
    let payer ← loadPayer sdk payerPath
    let ix ← client (setRecoveryConfigInstruction programId hybridAccount recoveryConfig
      (payer.publicBytes crypto) intent wire)
    let sig ← sendInstructions crypto sdk ⟨url⟩ payer [edIx, ix]
    writeOut sdk params.out (setConfigArtifact hex sdk digest nonce recoveryConfig edIx ix
      [("signature", .str sig)])
    pure { digest := some digest, nonce := some nonce, instructions := [edIx, ix]
           signature := some sig }
  else do
    let ix ← client (setRecoveryConfigInstruction programId hybridAccount recoveryConfig
      (ByteVec.zero 32) intent wire)
    writeOut sdk params.out (setConfigArtifact hex sdk digest nonce recoveryConfig edIx ix [])
    pure { digest := some digest, nonce := some nonce, instructions := [edIx, ix]
           signature := none }

structure InitiateParams where
  programId : String
  hybridAccount : String
  newOwner : String
  guardianKeys : PathBuf
  nonce : Option UInt64
  broadcast : BroadcastOpts
  out : Option PathBuf

/-- The guardian proposes a new owner. -/
def socialInitiate (params : InitiateParams) : Session Coins Built := do
  let programId ← parsePubkey sdk "program_id" params.programId
  let hybridAccount ← parsePubkey sdk "account" params.hybridAccount
  let newEd25519 ← parsePubkey sdk "new-owner" params.newOwner
  let (recoveryConfig, _) ← client (deriveRecoveryConfig P programId hybridAccount)
  let guardian ← Ed25519Keypair.load ⟨params.guardianKeys⟩
  let nonce ← resolveNonce sdk hybridAccount params.nonce params.broadcast
  let digest := socialRecoverDigest crypto defaultChainDomain programId hybridAccount newEd25519
    nonce
  let edIx := ed25519PrecompileInstruction crypto sdk guardian digest
  let ix := initiateSocialRecoveryInstruction programId hybridAccount recoveryConfig newEd25519
  let signature ← submitIf crypto sdk params.broadcast [edIx, ix]
  writeOut sdk params.out (.obj [
    hexField hex "digest" digest.toList,
    u64Field "nonce" nonce,
    ("recovery_config", .str (sdk.printPubkey recoveryConfig)),
    hexField hex "ed25519_precompile_data_hex" edIx.data,
    hexField hex "instruction_data_hex" ix.data,
    ("signature", .ofOption signature)])
  pure { digest := some digest, nonce := some nonce, instructions := [edIx, ix], signature }

structure FinalizeParams where
  programId : String
  hybridAccount : String
  broadcast : BroadcastOpts
  out : Option PathBuf

/-- Install the proposed owner; nobody signs. -/
def socialFinalize (params : FinalizeParams) : Session Coins Built := do
  let programId ← parsePubkey sdk "program_id" params.programId
  let hybridAccount ← parsePubkey sdk "account" params.hybridAccount
  let (recoveryConfig, _) ← client (deriveRecoveryConfig P programId hybridAccount)
  let ix := finalizeSocialRecoveryInstruction programId hybridAccount recoveryConfig
  let signature ← submitIf crypto sdk params.broadcast [ix]
  writeOut sdk params.out (.obj [
    ("recovery_config", .str (sdk.printPubkey recoveryConfig)),
    hexField hex "instruction_data_hex" ix.data,
    ("signature", .ofOption signature)])
  pure { digest := none, nonce := none, instructions := [ix], signature }

/-- The owner cancels a proposal. -/
def socialCancel (params : LifecycleParams) : Session Coins Built := do
  let programId ← parsePubkey sdk "program_id" params.programId
  let hybridAccount ← parsePubkey sdk "account" params.hybridAccount
  let (recoveryConfig, _) ← client (deriveRecoveryConfig P programId hybridAccount)
  let ed ← Ed25519Keypair.load ⟨params.keysDir⟩
  let falcon ← FalconKeypair.load crypto sdk ⟨params.keysDir⟩
  let nonce ← resolveNonce sdk hybridAccount params.nonce params.broadcast
  let intent := signingIntent programId hybridAccount nonce params.expirySlot .cancelSocialRecovery
  let digest := canonicalDigest crypto intent
  let wire ← signFalcon crypto falcon digest
  let edIx := ed25519PrecompileInstruction crypto sdk ed digest
  let ix ← client (cancelSocialRecoveryInstruction programId hybridAccount recoveryConfig intent
    wire)
  let signature ← submitIf crypto sdk params.broadcast [edIx, ix]
  writeOut sdk params.out (.obj [
    hexField hex "digest" digest.toList,
    u64Field "nonce" nonce,
    ("recovery_config", .str (sdk.printPubkey recoveryConfig)),
    hexField hex "ed25519_precompile_data_hex" edIx.data,
    hexField hex "instruction_data_hex" ix.data,
    ("signature", .ofOption signature)])
  pure { digest := some digest, nonce := some nonce, instructions := [edIx, ix], signature }

end DualKey
