import DualKey.Client.Cli
import DualKey.Client.Message
import DualKey.Properties.Confirmation
import DualKey.Properties.SignedBundles
import DualKey.System.Replay
import Mathlib.Data.Nat.Digits.Defs

/-!
# What a command asks of its surroundings

A command reads the key files of the parties that sign, and the payer's file if it broadcasts. It
writes nothing but its artifact, with a public mode. It talks to no cluster but the one it was
given, for the nonce if none was given, and for a broadcast if it was asked for one. A broadcast
sends one transaction, and that one is completely signed.

`Scope` states this permission and `Command.scope` assigns one to every command. No path of a
command leaves its scope (`command_confined`).
-/

namespace DualKey

open Dialogue Session Client
open Hex (Codec)

variable {Coins : Type}

/-- A request that sends a transaction. -/
def Io.isSend : Io → Bool
  | post _ body =>
    match body.get "method" with
    | some (.str method) => decide (method = "sendTransaction")
    | _ => false
  | _ => false

theorem isSend_requestBody {url method : String} {params : Json} :
    (Io.post url (Rpc.requestBody method params)).isSend =
      decide (method = "sendTransaction") := rfl

/-- The check of a validator: for every key that must sign, a signature of the message. -/
def Transaction.Signed (crypto : Crypto Coins) (sdk : Sdk) (tx : Transaction) : Prop :=
  ∃ bytes, sdk.serializeMessage tx.message = .ok bytes ∧
    List.Forall₂ (fun key sig => crypto.ed25519.verify key bytes sig = true)
      (tx.message.accountKeys.take tx.message.numRequiredSignatures.toNat) tx.signatures

/-- An operation that makes a public file. -/
def FileOp.Public : FileOp → Prop
  | openFile _ mode => mode = publicMode
  | writeAll _ _ => True
  | syncAll _ => True
  | setPermissions _ mode => mode = publicMode
  | createDirAll _ => False

/-- What a command may ask for. -/
structure Scope where
  /-- The key files that are read. -/
  reads : List PathBuf
  /-- Whether the nonce is read from the chain. -/
  readsNonce : Bool
  broadcast : BroadcastOpts
  out : Option PathBuf

namespace Scope

variable (crypto : Crypto Coins) (sdk : Sdk)

/-- The calls of a broadcast. -/
inductive Submits : Json → Prop where
  | blockhash : Submits (Rpc.requestBody "getLatestBlockhash" (.arr [Rpc.confirmed]))
  | send {tx : Transaction} {wire : List UInt8} (hwire : sdk.serializeTransaction tx = .ok wire)
    (hsigned : tx.Signed crypto sdk) :
    Submits (Rpc.requestBody "sendTransaction" (Rpc.sendParams sdk wire))
  | status (sig : String) :
    Submits (Rpc.requestBody "getSignatureStatuses" (Rpc.statusParams sig))

/-- The questions within a scope. -/
def Permits (scope : Scope) : Io → Prop
  | .readFile path => path ∈ scope.reads ∨
      (scope.broadcast.broadcast = true ∧ scope.broadcast.payerPath = some path)
  | .file op => scope.out = some op.path ∧ op.Public
  | .fillBytes => False
  | .falconKeypair => False
  | .falconCoins => True
  | .post url body => scope.broadcast.rpcUrl = some url ∧
      ((scope.readsNonce = true ∧ ∃ account,
          body = Rpc.requestBody "getAccountInfo" (Rpc.accountParams sdk account)) ∨
        (scope.broadcast.broadcast = true ∧ Submits crypto sdk body))
  | .sleep _ => scope.broadcast.broadcast = true

/-- How many transactions may be sent. -/
def sends (scope : Scope) : ℕ := if scope.broadcast.broadcast then 1 else 0

end Scope

/-- The scope of a command that signs with both schemes. -/
def LifecycleParams.scope (params : LifecycleParams) : Scope where
  reads := [KeyPaths.ed25519Sk ⟨params.keysDir⟩, KeyPaths.falconSk ⟨params.keysDir⟩,
    KeyPaths.falconPk ⟨params.keysDir⟩]
  readsNonce := params.nonce.isNone
  broadcast := params.broadcast
  out := params.out

/-- The scope of each command. -/
def Command.scope : Command → Scope
  | init params =>
    { reads := [KeyPaths.ed25519Pk ⟨params.keysDir⟩, KeyPaths.falconPk ⟨params.keysDir⟩]
      readsNonce := false, broadcast := params.broadcast, out := params.out }
  | transfer params =>
    { reads := [KeyPaths.ed25519Sk ⟨params.keysDir⟩, KeyPaths.falconSk ⟨params.keysDir⟩,
        KeyPaths.falconPk ⟨params.keysDir⟩]
      readsNonce := params.nonce.isNone, broadcast := params.broadcast, out := params.out }
  | transferSpl params =>
    { reads := [KeyPaths.ed25519Sk ⟨params.keysDir⟩, KeyPaths.falconSk ⟨params.keysDir⟩,
        KeyPaths.falconPk ⟨params.keysDir⟩]
      readsNonce := params.nonce.isNone, broadcast := params.broadcast, out := params.out }
  | changePolicy params _ _ => params.scope
  | rotateEd25519 params _ => params.scope
  | recoverEnable params => params.scope
  | recoverDisable params => params.scope
  | recoverRotateEd25519 params _ =>
    -- the Ed25519 key may be gone
    { params.scope with
      reads := [KeyPaths.falconSk ⟨params.keysDir⟩, KeyPaths.falconPk ⟨params.keysDir⟩] }
  | rotateFalcon params newFalconKeys =>
    -- never broadcast
    { params.scope with
      reads := params.scope.reads ++
        [KeyPaths.falconSk ⟨newFalconKeys⟩, KeyPaths.falconPk ⟨newFalconKeys⟩]
      broadcast := { params.broadcast with broadcast := false } }
  | socialSetConfig params _ _ => params.scope
  | socialInitiate params =>
    { reads := [KeyPaths.ed25519Sk ⟨params.guardianKeys⟩]
      readsNonce := params.nonce.isNone, broadcast := params.broadcast, out := params.out }
  | socialFinalize params =>
    { reads := [], readsNonce := false, broadcast := params.broadcast, out := params.out }
  | socialCancel params => params.scope

section Confined

variable {crypto : Crypto Coins} {hex : Codec} {sdk : Sdk} {P : Platform} {scope : Scope} {n : ℕ}

/-- No path leaves the scope, and at most `n` transactions are sent. -/
abbrev Session.Confined {α : Type} (crypto : Crypto Coins) (sdk : Sdk) (scope : Scope) (n : ℕ)
    (x : Session Coins α) : Prop :=
  Within (scope.Permits crypto sdk) Io.isSend n x

/-! ### Files -/

theorem confined_readExactLen {path : PathBuf} {expected : ℕ} (h : path ∈ scope.reads) :
    (readExactLen path expected : Session Coins (List UInt8)).Confined crypto sdk scope n :=
  Within.bind_right (within_asked (Or.inl h) rfl) fun _ _ _ =>
    Within.bind_right (within_failIf _ _) fun _ _ _ => .pure _

theorem confined_loadEd25519 {paths : KeyPaths} (h : paths.ed25519Sk ∈ scope.reads) :
    (Ed25519Keypair.load paths : Session Coins Ed25519Keypair).Confined crypto sdk scope n := by
  refine Within.bind_right (confined_readExactLen h) fun seed _ _ => ?_
  unfold Ed25519Keypair.fromSeed
  split
  · exact .pure _
  · exact .throw _

theorem confined_loadFalcon {paths : KeyPaths} (hsk : paths.falconSk ∈ scope.reads)
    (hpk : paths.falconPk ∈ scope.reads) :
    (FalconKeypair.load crypto sdk paths).Confined crypto sdk scope n :=
  Within.bind_right (confined_readExactLen hsk) fun _ _ _ =>
    Within.bind_right (confined_readExactLen hpk) fun _ _ _ =>
      Within.bind_right (within_failIf _ _) fun _ _ _ =>
        Within.bind_right (within_failIf _ _) fun _ _ _ => .pure _

theorem confined_loadPublic {paths : KeyPaths} (hed : paths.ed25519Pk ∈ scope.reads)
    (hpk : paths.falconPk ∈ scope.reads) :
    (PublicKeys.load paths : Session Coins PublicKeys).Confined crypto sdk scope n := by
  refine Within.bind_right (confined_readExactLen hed) fun ed _ _ => ?_
  refine Within.bind_right (confined_readExactLen hpk) fun falconWire _ _ => ?_
  split
  · exact .pure _
  · exact .throw _

theorem confined_loadPayer {path : PathBuf} (hb : scope.broadcast.broadcast = true)
    (h : scope.broadcast.payerPath = some path) :
    (loadPayer sdk path : Session Coins Ed25519Keypair).Confined crypto sdk scope n :=
  Within.bind_right (within_asked (Or.inr ⟨hb, h⟩) rfl) fun _ _ _ =>
    Within.bind_right (within_mapErr _ _) fun _ _ _ => within_okOr _ _

/-- The artifact is public. -/
theorem confined_writeOut (artifact : Json) :
    (writeOut sdk scope.out artifact : Session Coins Unit).Confined crypto sdk scope n := by
  unfold writeOut
  split
  · exact .pure _
  · next path hout =>
    have hop {op : FileOp} (hpath : op.path = path) (hpublic : op.Public) :
        scope.Permits crypto sdk (.file op) := ⟨by rw [hout, hpath], hpublic⟩
    refine Within.bind_right (within_mapErr _ _) fun json _ _ => ?_
    refine Within.bind_right (within_asked (hop rfl rfl) rfl) fun _ _ _ => ?_
    refine Within.bind_right (within_asked (hop rfl trivial) rfl) fun _ _ _ => ?_
    refine Within.bind_right (within_asked (hop rfl trivial) rfl) fun _ _ _ => ?_
    exact within_asked (hop rfl rfl) rfl

/-! ### Calls -/

theorem confined_call {rpc : Rpc} {method : String} {params : Json}
    (h : scope.Permits crypto sdk (.post rpc.url (Rpc.requestBody method params)))
    (hmethod : method ≠ "sendTransaction") :
    (rpc.call sdk method params : Session Coins Json).Confined crypto sdk scope n := by
  refine Within.bind_right (within_asked h ?_) fun resp _ _ => ?_
  · rw [isSend_requestBody]
    exact decide_eq_false hmethod
  · split
    · exact .throw _
    · exact within_okOr _ _

/-- The nonce is looked up where none was given. -/
theorem confined_resolveNonce {hybrid : Pubkey} {nonce : Option UInt64}
    (h : nonce = none → scope.readsNonce = true) :
    (resolveNonce sdk hybrid nonce scope.broadcast : Session Coins UInt64).Confined crypto sdk
      scope n := by
  unfold resolveNonce
  split
  · exact .pure _
  · refine Within.bind_right (within_okOr _ _) fun url _ hurl => ?_
    have hcall : scope.Permits crypto sdk (.post url (Rpc.requestBody "getAccountInfo"
        (Rpc.accountParams sdk hybrid))) :=
      ⟨(path_okOr.mp hurl).2, Or.inl ⟨h rfl, hybrid, rfl⟩⟩
    refine Within.bind_right ?_ fun data _ _ => ?_
    · refine Within.bind_right (confined_call hcall (by decide)) fun _ _ _ => ?_
      exact Within.bind_right (within_okOr _ _) fun _ _ _ => within_mapErr _ _
    · split
      · exact .pure _
      · exact .throw _

theorem confined_signFalcon {falcon : FalconKeypair} {digest : Digest} :
    (signFalcon crypto falcon digest).Confined crypto sdk scope n :=
  Within.bind_right (.question trivial rfl) fun _ _ _ =>
    Within.bind_right (within_client _) fun _ _ _ => .pure _

theorem confined_poll {rpc : Rpc} {sig : String} (hb : scope.broadcast.broadcast = true)
    (hurl : scope.broadcast.rpcUrl = some rpc.url) (k : ℕ) :
    (rpc.poll sdk sig k : Session Coins String).Confined crypto sdk scope 0 := by
  induction k with
  | zero => exact .throw _
  | succ k ih =>
    have hcall : scope.Permits crypto sdk (.post rpc.url (Rpc.requestBody "getSignatureStatuses"
        (Rpc.statusParams sig))) := ⟨hurl, Or.inr ⟨hb, .status sig⟩⟩
    refine Within.bind_right (confined_call hcall (by decide)) fun reply _ _ => ?_
    split
    · exact .throw _
    · exact .pure _
    · exact Within.bind_right (.question hb rfl) fun _ _ _ => ih

/-! ### Broadcasts -/

/-- A transaction whose instructions ask for no signature but the payer's is signed. -/
theorem signed_legacyTransaction (hdoc : sdk.Documented) {payer : Ed25519Keypair}
    {ixs : List Instruction} {blockhash : ByteVec 32} {tx : Transaction}
    {log : Log (Io.Answer Coins)} (hpayer : payer.Correct crypto.ed25519)
    (hlen : (namedKeys ixs).length < 255)
    (hsigners : ∀ entry ∈ ixs.flatMap Instruction.accounts, entry.isSigner = true →
      entry.pubkey = payer.publicBytes crypto)
    (h : Path (signLegacyTransaction crypto sdk payer ixs blockhash) log (.ok tx)) :
    tx.Signed crypto sdk := by
  simp only [signLegacyTransaction, path_bind_ok, path_mapErr, path_pure, Except.ok.injEq] at h
  obtain ⟨bytes, _, _, -, ⟨-, hbytes⟩, -, rfl⟩ := h
  refine ⟨bytes, hbytes, ?_⟩
  -- the first two groups are empty, so the payer alone must sign
  have hnum : numSigners ixs (payer.publicBytes crypto) = 1 := by
    rw [numSigners, keyGroup_signer_eq_nil hsigners, keyGroup_signer_eq_nil hsigners]
    rfl
  simp only [legacyMessage, hdoc.newMessage _ _ hlen, compileMessage, hnum]
  exact .cons (hpayer.sign_verify bytes) .nil

/-- Sending instructions that only the payer signs. -/
theorem confined_sendInstructions (hdoc : sdk.Documented) {rpc : Rpc}
    {payer : Ed25519Keypair} {ixs : List Instruction} (hb : scope.broadcast.broadcast = true)
    (hurl : scope.broadcast.rpcUrl = some rpc.url) (hpayer : payer.Correct crypto.ed25519)
    (hlen : (namedKeys ixs).length < 255)
    (hsigners : ∀ entry ∈ ixs.flatMap Instruction.accounts, entry.isSigner = true →
      entry.pubkey = payer.publicBytes crypto) :
    (sendInstructions crypto sdk rpc payer ixs).Confined crypto sdk scope 1 := by
  have hblockhash : scope.Permits crypto sdk (.post rpc.url (Rpc.requestBody "getLatestBlockhash"
      (.arr [Rpc.confirmed]))) := ⟨hurl, Or.inr ⟨hb, .blockhash⟩⟩
  refine Within.bind_right ?_ fun blockhash _ _ => ?_
  · refine Within.bind_right (confined_call hblockhash (by decide)) fun _ _ _ => ?_
    exact Within.bind_right (within_okOr _ _) fun _ _ _ => within_okOr _ _
  refine Within.bind_right ?_ fun tx _ htx => ?_
  · exact Within.bind_right (within_mapErr _ _) fun _ _ _ => .pure _
  have hsigned := signed_legacyTransaction hdoc hpayer hlen hsigners htx
  refine Within.bind_right (within_mapErr _ _) fun wire _ hwire => ?_
  -- this is the one call that counts
  have hsend : scope.Permits crypto sdk (.post rpc.url (Rpc.requestBody "sendTransaction"
      (Rpc.sendParams sdk wire))) :=
    ⟨hurl, Or.inr ⟨hb, .send (path_mapErr.mp hwire).2 hsigned⟩⟩
  refine Within.bind (n := 1) (k := 0) ?_ fun result _ _ => ?_
  · refine Within.bind (n := 1) (k := 0) (within_asked_one hsend) fun resp _ _ => ?_
    split
    · exact .throw _
    · exact within_okOr _ _
  · exact Within.bind_right (within_okOr _ _) fun sig _ _ => confined_poll hb hurl _

theorem requireForBroadcast_eq_ok {opts : BroadcastOpts} {url : String} {payer : PathBuf} :
    opts.requireForBroadcast = .ok (url, payer) ↔
      opts.broadcast = true ∧ opts.rpcUrl = some url ∧ opts.payerPath = some payer := by
  obtain ⟨broadcast, rpcUrl, payerPath⟩ := opts
  cases broadcast <;> cases rpcUrl <;> cases payerPath <;>
    simp [BroadcastOpts.requireForBroadcast]

/-! ### Instructions without signers -/

/-- The instruction asks for no signature. -/
structure Instruction.Unsigned (ix : Instruction) : Prop where
  short : ix.accounts.length < 250
  signers : ∀ entry ∈ ix.accounts, entry.isSigner = false

section Unsigned

variable {programId hybridAccount recoveryConfig : Pubkey} {intent : AuthorizationIntent}
  {falconSig : List UInt8} {ix : Instruction}

/-- Accounts that were all named without a signature. -/
theorem Instruction.Unsigned.of_accounts {accounts : List AccountMeta}
    (hix : ix.accounts = accounts) (hshort : accounts.length < 250)
    (h : accounts.all (fun entry => !entry.isSigner) = true) : ix.Unsigned where
  short := hix ▸ hshort
  signers entry hentry := by
    rw [hix] at hentry
    simpa using List.all_eq_true.mp h entry hentry

theorem unsigned_execute
    (h : executeInstruction programId hybridAccount intent falconSig = .ok ix) : ix.Unsigned := by
  obtain ⟨-, _, _, -, rfl⟩ := executeInstruction_ok h
  exact .of_accounts rfl (by simp) rfl

theorem unsigned_executeSpl {creator source mint tokenProgram : Pubkey}
    (h : executeTransferSplInstructionWithProgram programId hybridAccount creator source mint
      tokenProgram intent falconSig = .ok ix) : ix.Unsigned := by
  obtain ⟨-, _, _, -, rfl⟩ := executeTransferSplInstructionWithProgram_ok h
  exact .of_accounts rfl (by simp) rfl

theorem unsigned_changePolicy
    (h : changePolicyInstruction programId hybridAccount intent falconSig = .ok ix) :
    ix.Unsigned := by
  obtain ⟨-, rfl⟩ := changePolicyInstruction_ok h
  exact .of_accounts rfl (by simp) rfl

theorem unsigned_recoverAccount {config : Option Pubkey}
    (h : recoverAccountInstruction programId hybridAccount intent falconSig config = .ok ix) :
    ix.Unsigned := by
  obtain ⟨-, op, _, accounts, -, haccounts, rfl⟩ := recoverAccountInstruction_ok h
  cases op with
  | enable =>
    cases haccounts
    exact .of_accounts rfl (by simp) rfl
  | disable =>
    cases haccounts
    exact .of_accounts rfl (by simp) rfl
  | rotateEd25519 =>
    cases config with
    | none => cases haccounts
    | some config =>
      cases haccounts
      exact .of_accounts rfl (by simp) rfl

theorem unsigned_rotateEd25519
    (h : rotateEd25519Instruction programId hybridAccount recoveryConfig intent falconSig =
      .ok ix) : ix.Unsigned := by
  obtain ⟨-, rfl⟩ := rotateEd25519Instruction_ok h
  exact .of_accounts rfl (by simp) rfl

theorem unsigned_cancel
    (h : cancelSocialRecoveryInstruction programId hybridAccount recoveryConfig intent falconSig =
      .ok ix) : ix.Unsigned := by
  obtain ⟨-, rfl⟩ := cancelSocialRecoveryInstruction_ok h
  exact .of_accounts rfl (by simp) rfl

theorem unsigned_initiate {newEd25519 : Pubkey} :
    (initiateSocialRecoveryInstruction programId hybridAccount recoveryConfig
      newEd25519).Unsigned where
  short := by simp [initiateSocialRecoveryInstruction]
  signers := by simp [initiateSocialRecoveryInstruction, AccountMeta.new, AccountMeta.newReadonly]

theorem unsigned_finalize :
    (finalizeSocialRecoveryInstruction programId hybridAccount recoveryConfig).Unsigned where
  short := by simp [finalizeSocialRecoveryInstruction]
  signers := by simp [finalizeSocialRecoveryInstruction, AccountMeta.new]

end Unsigned

/-! ### The commands -/

section Commands

variable (hdoc : sdk.Documented)
  (hed : ∀ ed : Ed25519Keypair, ed.Correct crypto.ed25519)

include hdoc hed

/-- The shared last step of most commands. -/
theorem confined_submitIf {ixs : List Instruction}
    (hlen : (namedKeys ixs).length < 255)
    (hsigners : ∀ entry ∈ ixs.flatMap Instruction.accounts, entry.isSigner = false) :
    (submitIf crypto sdk scope.broadcast ixs).Confined crypto sdk scope scope.sends := by
  unfold submitIf Scope.sends
  split
  · next hb =>
    refine Within.bind_right (within_client _) fun ⟨url, payerPath⟩ _ hrequire => ?_
    obtain ⟨-, hurl, hpath⟩ := requireForBroadcast_eq_ok.mp (path_client.mp hrequire).2
    refine Within.bind_right (confined_loadPayer hb hpath) fun payer _ _ => ?_
    refine Within.bind (n := 1) (k := 0) ?_ fun _ _ _ => .pure _
    refine confined_sendInstructions hdoc hb hurl (hed payer) hlen fun entry hentry hsigner => ?_
    rw [hsigners entry hentry] at hsigner
    cases hsigner
  · exact .pure _

/-- An instruction that nobody signs, alone. -/
theorem confined_submit_one {ix : Instruction} (h : ix.Unsigned) :
    (submitIf crypto sdk scope.broadcast [ix]).Confined crypto sdk scope scope.sends := by
  have haccounts : [ix].flatMap Instruction.accounts = ix.accounts := List.append_nil _
  refine confined_submitIf hdoc hed ?_ ?_
  · rw [length_namedKeys, haccounts]
    exact Nat.add_lt_add_of_lt_of_le h.short (by decide : 1 ≤ 5)
  · rw [haccounts]
    exact h.signers

omit hed in
theorem precompile_accounts (ed : Ed25519Keypair) (digest : Digest) (ix : Instruction) :
    [ed25519PrecompileInstruction crypto sdk ed digest, ix].flatMap Instruction.accounts =
      ix.accounts := by
  rw [ed25519PrecompileInstruction, hdoc.newEd25519Instruction]
  exact List.append_nil _

/-- An instruction that nobody signs, behind a precompile instruction. -/
theorem confined_submit_pair {ed : Ed25519Keypair} {digest : Digest} {ix : Instruction}
    (h : ix.Unsigned) :
    (submitIf crypto sdk scope.broadcast [ed25519PrecompileInstruction crypto sdk ed digest,
      ix]).Confined crypto sdk scope scope.sends := by
  refine confined_submitIf hdoc hed ?_ ?_
  · rw [length_namedKeys, precompile_accounts hdoc]
    exact Nat.add_lt_add_of_lt_of_le h.short (by decide : 2 ≤ 5)
  · rw [precompile_accounts hdoc]
    exact h.signers

theorem confined_transfer (params : TransferParams) :
    (transfer crypto hex sdk params).Confined crypto sdk (Command.transfer params).scope
      (Command.transfer params).scope.sends := by
  refine Within.bind_right (within_okOr _ _) fun programId _ _ => ?_
  refine Within.bind_right (within_okOr _ _) fun hybridAccount _ _ => ?_
  refine Within.bind_right (within_okOr _ _) fun recipient _ _ => ?_
  refine Within.bind_right (confined_loadEd25519 (by simp [Command.scope])) fun ed _ _ => ?_
  refine Within.bind_right (confined_loadFalcon (by simp [Command.scope])
    (by simp [Command.scope])) fun falcon _ _ => ?_
  refine Within.bind_right (confined_resolveNonce fun h => by simp [Command.scope, h])
    fun nonce _ _ => ?_
  refine Within.bind_right confined_signFalcon fun wire _ _ => ?_
  refine Within.bind_right (within_client _) fun ix _ hix => ?_
  refine Within.bind (k := 0) (confined_submit_pair hdoc hed
    (unsigned_execute (path_client.mp hix).2)) fun signature _ _ => ?_
  exact Within.bind_right (confined_writeOut _) fun _ _ _ => .pure _

theorem confined_transferSpl (params : TransferSplParams) :
    (transferSpl crypto hex sdk params).Confined crypto sdk (Command.transferSpl params).scope
      (Command.transferSpl params).scope.sends := by
  refine Within.bind_right (within_okOr _ _) fun programId _ _ => ?_
  refine Within.bind_right (within_okOr _ _) fun hybridAccount _ _ => ?_
  refine Within.bind_right (within_okOr _ _) fun creator _ _ => ?_
  refine Within.bind_right (within_okOr _ _) fun source _ _ => ?_
  refine Within.bind_right (within_okOr _ _) fun mint _ _ => ?_
  refine Within.bind_right (within_okOr _ _) fun destination _ _ => ?_
  refine Within.bind_right (confined_loadEd25519 (by simp [Command.scope])) fun ed _ _ => ?_
  refine Within.bind_right (confined_loadFalcon (by simp [Command.scope])
    (by simp [Command.scope])) fun falcon _ _ => ?_
  refine Within.bind_right (confined_resolveNonce fun h => by simp [Command.scope, h])
    fun nonce _ _ => ?_
  refine Within.bind_right confined_signFalcon fun wire _ _ => ?_
  refine Within.bind_right (within_client _) fun ix _ hix => ?_
  refine Within.bind (k := 0) (confined_submit_pair hdoc hed
    (unsigned_executeSpl (path_client.mp hix).2)) fun signature _ _ => ?_
  exact Within.bind_right (confined_writeOut _) fun _ _ _ => .pure _

/-- The commands without a recovery config, for any builder of unsigned instructions. -/
theorem confined_signLifecycle (params : LifecycleParams) (action : Action)
    {buildIx : Pubkey → Pubkey → AuthorizationIntent → List UInt8 → ClientRes Instruction}
    (hbuild : ∀ p v intent wire ix, buildIx p v intent wire = .ok ix → ix.Unsigned) :
    (signLifecycle crypto hex sdk params action buildIx).Confined crypto sdk params.scope
      params.scope.sends := by
  refine Within.bind_right (within_okOr _ _) fun programId _ _ => ?_
  refine Within.bind_right (within_okOr _ _) fun hybridAccount _ _ => ?_
  refine Within.bind_right (confined_loadEd25519 (by simp [LifecycleParams.scope])) fun ed _ _ => ?_
  refine Within.bind_right (confined_loadFalcon (by simp [LifecycleParams.scope])
    (by simp [LifecycleParams.scope])) fun falcon _ _ => ?_
  refine Within.bind_right (confined_resolveNonce fun h => by simp [LifecycleParams.scope, h])
    fun nonce _ _ => ?_
  refine Within.bind_right confined_signFalcon fun wire _ _ => ?_
  refine Within.bind_right (within_client _) fun ix _ hix => ?_
  refine Within.bind (k := 0) (confined_submit_pair hdoc hed
    (hbuild _ _ _ _ _ (path_client.mp hix).2)) fun signature _ _ => ?_
  exact Within.bind_right (confined_writeOut _) fun _ _ _ => .pure _

theorem confined_changePolicy (params : LifecycleParams) (policy : AuthorizationPolicy)
    (threshold : UInt64) :
    (changePolicy crypto hex sdk params policy threshold).Confined crypto sdk params.scope
      params.scope.sends :=
  confined_signLifecycle hdoc hed params _ fun _ _ _ _ _ h => unsigned_changePolicy h

theorem confined_recoverEnable (params : LifecycleParams) :
    (recoverEnable crypto hex sdk params).Confined crypto sdk params.scope params.scope.sends :=
  confined_signLifecycle hdoc hed params _ fun _ _ _ _ _ h => unsigned_recoverAccount h

theorem confined_recoverDisable (params : LifecycleParams) :
    (recoverDisable crypto hex sdk params).Confined crypto sdk params.scope params.scope.sends :=
  confined_signLifecycle hdoc hed params _ fun _ _ _ _ _ h => unsigned_recoverAccount h

theorem confined_rotateEd25519 (params : LifecycleParams) (newOwner : String) :
    (rotateEd25519 P crypto hex sdk params newOwner).Confined crypto sdk params.scope
      params.scope.sends := by
  refine Within.bind_right (within_okOr _ _) fun newPubkey _ _ => ?_
  refine Within.bind_right (within_okOr _ _) fun programId _ _ => ?_
  refine Within.bind_right (within_okOr _ _) fun hybridAccount _ _ => ?_
  refine Within.bind_right (within_client _) fun ⟨recoveryConfig, _⟩ _ _ => ?_
  refine Within.bind_right (confined_loadEd25519 (by simp [LifecycleParams.scope])) fun ed _ _ => ?_
  refine Within.bind_right (confined_loadFalcon (by simp [LifecycleParams.scope])
    (by simp [LifecycleParams.scope])) fun falcon _ _ => ?_
  refine Within.bind_right (confined_resolveNonce fun h => by simp [LifecycleParams.scope, h])
    fun nonce _ _ => ?_
  refine Within.bind_right confined_signFalcon fun wire _ _ => ?_
  refine Within.bind_right (within_client _) fun ix _ hix => ?_
  refine Within.bind (k := 0) (confined_submit_pair hdoc hed
    (unsigned_rotateEd25519 (path_client.mp hix).2)) fun signature _ _ => ?_
  exact Within.bind_right (confined_writeOut _) fun _ _ _ => .pure _

theorem confined_socialCancel (params : LifecycleParams) :
    (socialCancel P crypto hex sdk params).Confined crypto sdk params.scope
      params.scope.sends := by
  refine Within.bind_right (within_okOr _ _) fun programId _ _ => ?_
  refine Within.bind_right (within_okOr _ _) fun hybridAccount _ _ => ?_
  refine Within.bind_right (within_client _) fun ⟨recoveryConfig, _⟩ _ _ => ?_
  refine Within.bind_right (confined_loadEd25519 (by simp [LifecycleParams.scope])) fun ed _ _ => ?_
  refine Within.bind_right (confined_loadFalcon (by simp [LifecycleParams.scope])
    (by simp [LifecycleParams.scope])) fun falcon _ _ => ?_
  refine Within.bind_right (confined_resolveNonce fun h => by simp [LifecycleParams.scope, h])
    fun nonce _ _ => ?_
  refine Within.bind_right confined_signFalcon fun wire _ _ => ?_
  refine Within.bind_right (within_client _) fun ix _ hix => ?_
  refine Within.bind (k := 0) (confined_submit_pair hdoc hed
    (unsigned_cancel (path_client.mp hix).2)) fun signature _ _ => ?_
  exact Within.bind_right (confined_writeOut _) fun _ _ _ => .pure _

theorem confined_recoverRotateEd25519 (params : LifecycleParams) (newOwner : String) :
    (recoverRotateEd25519 P crypto hex sdk params newOwner).Confined crypto sdk
      (Command.recoverRotateEd25519 params newOwner).scope
      (Command.recoverRotateEd25519 params newOwner).scope.sends := by
  refine Within.bind_right (within_okOr _ _) fun newEd25519 _ _ => ?_
  refine Within.bind_right (within_okOr _ _) fun programId _ _ => ?_
  refine Within.bind_right (within_okOr _ _) fun hybridAccount _ _ => ?_
  refine Within.bind_right (within_client _) fun ⟨recoveryConfig, _⟩ _ _ => ?_
  refine Within.bind_right (confined_loadFalcon (by simp [Command.scope])
    (by simp [Command.scope])) fun falcon _ _ => ?_
  refine Within.bind_right (confined_resolveNonce fun h => by
    simp [Command.scope, LifecycleParams.scope, h]) fun nonce _ _ => ?_
  refine Within.bind_right confined_signFalcon fun wire _ _ => ?_
  refine Within.bind_right (within_client _) fun ix _ hix => ?_
  refine Within.bind (k := 0) (confined_submit_one hdoc hed
    (unsigned_recoverAccount (path_client.mp hix).2)) fun signature _ _ => ?_
  exact Within.bind_right (confined_writeOut _) fun _ _ _ => .pure _

omit hdoc hed in
theorem confined_rotateFalcon (params : LifecycleParams) (newFalconKeys : PathBuf) :
    (rotateFalcon crypto hex sdk params newFalconKeys).Confined crypto sdk
      (Command.rotateFalcon params newFalconKeys).scope 0 := by
  refine Within.bind_right (within_failIf _ _) fun _ _ hbroadcast => ?_
  refine Within.bind_right (within_okOr _ _) fun programId _ _ => ?_
  refine Within.bind_right (within_okOr _ _) fun hybridAccount _ _ => ?_
  refine Within.bind_right (confined_loadEd25519
    (by simp [Command.scope, LifecycleParams.scope])) fun ed _ _ => ?_
  refine Within.bind_right (confined_loadFalcon (by simp [Command.scope, LifecycleParams.scope])
    (by simp [Command.scope, LifecycleParams.scope])) fun falcon _ _ => ?_
  refine Within.bind_right (confined_loadFalcon (by simp [Command.scope])
    (by simp [Command.scope])) fun newFalcon _ _ => ?_
  refine Within.bind_right (confined_resolveNonce fun h => by
    simp [Command.scope, LifecycleParams.scope, h]) fun nonce _ _ => ?_
  refine Within.bind_right confined_signFalcon fun authWire _ _ => ?_
  refine Within.bind_right confined_signFalcon fun popWire _ _ => ?_
  refine Within.bind_right (within_client _) fun ix _ _ => ?_
  exact Within.bind_right (confined_writeOut _) fun _ _ _ => .pure _

theorem confined_socialInitiate (params : InitiateParams) :
    (socialInitiate P crypto hex sdk params).Confined crypto sdk
      (Command.socialInitiate params).scope (Command.socialInitiate params).scope.sends := by
  refine Within.bind_right (within_okOr _ _) fun programId _ _ => ?_
  refine Within.bind_right (within_okOr _ _) fun hybridAccount _ _ => ?_
  refine Within.bind_right (within_okOr _ _) fun newEd25519 _ _ => ?_
  refine Within.bind_right (within_client _) fun ⟨recoveryConfig, _⟩ _ _ => ?_
  refine Within.bind_right (confined_loadEd25519 (by simp [Command.scope])) fun guardian _ _ => ?_
  refine Within.bind_right (confined_resolveNonce fun h => by simp [Command.scope, h])
    fun nonce _ _ => ?_
  refine Within.bind (k := 0) (confined_submit_pair hdoc hed unsigned_initiate)
    fun signature _ _ => ?_
  exact Within.bind_right (confined_writeOut _) fun _ _ _ => .pure _

theorem confined_socialFinalize (params : FinalizeParams) :
    (socialFinalize P crypto hex sdk params).Confined crypto sdk
      (Command.socialFinalize params).scope (Command.socialFinalize params).scope.sends := by
  refine Within.bind_right (within_okOr _ _) fun programId _ _ => ?_
  refine Within.bind_right (within_okOr _ _) fun hybridAccount _ _ => ?_
  refine Within.bind_right (within_client _) fun ⟨recoveryConfig, _⟩ _ _ => ?_
  refine Within.bind (k := 0) (confined_submit_one hdoc hed unsigned_finalize)
    fun signature _ _ => ?_
  exact Within.bind_right (confined_writeOut _) fun _ _ _ => .pure _

/-- The payer signs the creation of the recovery config. -/
theorem confined_socialSetConfig (params : LifecycleParams) (guardian : String)
    (delaySlots : UInt64) :
    (socialSetConfig P crypto hex sdk params guardian delaySlots).Confined crypto sdk params.scope
      params.scope.sends := by
  refine Within.bind_right (within_okOr _ _) fun programId _ _ => ?_
  refine Within.bind_right (within_okOr _ _) fun hybridAccount _ _ => ?_
  refine Within.bind_right (within_okOr _ _) fun guardianEd25519 _ _ => ?_
  refine Within.bind_right (within_client _) fun ⟨recoveryConfig, _⟩ _ _ => ?_
  refine Within.bind_right (confined_loadEd25519 (by simp [LifecycleParams.scope])) fun ed _ _ => ?_
  refine Within.bind_right (confined_loadFalcon (by simp [LifecycleParams.scope])
    (by simp [LifecycleParams.scope])) fun falcon _ _ => ?_
  refine Within.bind_right (confined_resolveNonce fun h => by simp [LifecycleParams.scope, h])
    fun nonce _ _ => ?_
  refine Within.bind_right confined_signFalcon fun wire _ _ => ?_
  refine Within.ite (fun hb => ?_) fun hb => ?_
  · have hsends : params.scope.sends = 1 := if_pos hb
    rw [hsends]
    refine Within.bind_right (within_client _) fun ⟨url, payerPath⟩ _ hrequire => ?_
    obtain ⟨-, hurl, hpath⟩ := requireForBroadcast_eq_ok.mp (path_client.mp hrequire).2
    refine Within.bind_right (confined_loadPayer hb hpath) fun payer _ _ => ?_
    refine Within.bind_right (within_client _) fun ix _ hix => ?_
    obtain ⟨-, rfl⟩ := setRecoveryConfigInstruction_ok (path_client.mp hix).2
    refine Within.bind (n := 1) (k := 0) ?_ fun sig _ _ => ?_
    · refine confined_sendInstructions hdoc hb hurl (hed payer) ?_ ?_
      · rw [length_namedKeys, precompile_accounts hdoc]
        simp
      · rw [precompile_accounts hdoc]
        simp [AccountMeta.new, AccountMeta.newReadonly]
    · exact Within.bind_right (confined_writeOut _) fun _ _ _ => .pure _
  · refine Within.bind_right (within_client _) fun ix _ _ => ?_
    exact Within.bind_right (confined_writeOut _) fun _ _ _ => .pure _

/-- The creator signs the creation of the vault, and is the payer of the transaction. -/
theorem confined_submitInit {creator hybridAccount : Pubkey} {ix : Instruction}
    (haccounts : ix.accounts =
      [.new creator true, .new hybridAccount false, .newReadonly systemProgramId false]) :
    (submitInit crypto sdk scope.broadcast creator ix).Confined crypto sdk scope scope.sends := by
  unfold submitInit Scope.sends
  split
  · next hb =>
    refine Within.bind_right (within_client _) fun ⟨url, payerPath⟩ _ hrequire => ?_
    obtain ⟨-, hurl, hpath⟩ := requireForBroadcast_eq_ok.mp (path_client.mp hrequire).2
    refine Within.bind_right (confined_loadPayer hb hpath) fun payer _ _ => ?_
    refine Within.bind_right (within_failIf _ _) fun _ _ hcreator => ?_
    have heq : payer.publicBytes crypto = creator := not_not.mp (path_failIf.mp hcreator).2
    refine Within.bind (n := 1) (k := 0) ?_ fun _ _ _ => .pure _
    refine confined_sendInstructions hdoc hb hurl (hed payer) ?_ ?_
    · simp [length_namedKeys, haccounts]
    · simp [haccounts, AccountMeta.new, AccountMeta.newReadonly, heq]
  · exact .pure _

theorem confined_init (params : InitParams) :
    (init P crypto hex sdk params).Confined crypto sdk (Command.init params).scope
      (Command.init params).scope.sends := by
  refine Within.bind_right (within_okOr _ _) fun programId _ _ => ?_
  refine Within.bind_right (within_okOr _ _) fun creator _ _ => ?_
  refine Within.bind_right (confined_loadPublic (by simp [Command.scope])
    (by simp [Command.scope])) fun keys _ _ => ?_
  refine Within.bind_right (within_client _) fun ⟨instruction, hybridAccount, bump⟩ _ hix => ?_
  obtain ⟨-, -, rfl⟩ := initializeInstruction_ok (path_client.mp hix).2
  refine Within.bind (k := 0) (confined_submitInit hdoc hed rfl) fun signature _ _ => ?_
  exact Within.bind_right (confined_writeOut _) fun _ _ _ => .pure _

theorem confined_run (cmd : Command) :
    (cmd.run P crypto hex sdk).Confined crypto sdk cmd.scope cmd.scope.sends := by
  cases cmd with
  | init params => exact confined_init hdoc hed params
  | transfer params => exact confined_transfer hdoc hed params
  | changePolicy params policy threshold =>
    exact confined_changePolicy hdoc hed params _ _
  | rotateEd25519 params newOwner => exact confined_rotateEd25519 hdoc hed params _
  | recoverEnable params => exact confined_recoverEnable hdoc hed params
  | recoverDisable params => exact confined_recoverDisable hdoc hed params
  | recoverRotateEd25519 params newOwner => exact confined_recoverRotateEd25519 hdoc hed params _
  | transferSpl params => exact confined_transferSpl hdoc hed params
  | rotateFalcon params newFalconKeys => exact confined_rotateFalcon params newFalconKeys
  | socialSetConfig params guardian delaySlots =>
    exact confined_socialSetConfig hdoc hed params _ _
  | socialInitiate params => exact confined_socialInitiate hdoc hed params
  | socialFinalize params => exact confined_socialFinalize hdoc hed params
  | socialCancel params => exact confined_socialCancel hdoc hed params

/-- **A command stays within its scope.** Whatever the file system and the cluster answer, and also
when the command fails: it reads no file but the key files of the parties that sign and, to
broadcast, the payer's; it writes nothing but its artifact, with public mode, and draws no new key;
it calls no cluster but the given one, for the nonce where none was given and otherwise only to
broadcast. At most one transaction is sent, none without `--broadcast` and none by `rotate-falcon`,
and the one that is sent carries a valid signature for every key that must sign. -/
theorem command_confined (cmd : Command) :
    Within (cmd.scope.Permits crypto sdk) Io.isSend cmd.scope.sends
      (cmd.run P crypto hex sdk) :=
  confined_run hdoc hed cmd

end Commands

end Confined

/-! ### A sample library

The text codecs are the usual ones, over the sample cryptography. -/

namespace SampleSdk

open SampleCrypto

/-- Digits of a number to text, the most significant first. -/
def digitsText (alphabet : List Char) (base n : ℕ) : List Char :=
  (Nat.digits base n).reverse.map fun d => alphabet.getD d '1'

/-- The number that digits stand for. -/
def ofDigits (base : ℕ) (digits : List ℕ) : ℕ := digits.foldl (fun n d => base * n + d) 0

def base58 : List Char := "123456789ABCDEFGHJKLMNPQRSTUVWXYZabcdefghijkmnopqrstuvwxyz".toList

def printBase58 (bytes : List UInt8) : String :=
  String.ofList ((bytes.takeWhile fun b => b = 0).map (fun _ => '1') ++
    digitsText base58 58 (ofDigits 256 (bytes.map UInt8.toNat)))

def parseBase58 (text : String) : Option (ByteVec 32) := do
  let digits ← text.toList.mapM fun c => base58.idxOf? c
  let bytes := (text.toList.takeWhile fun c => c = '1').map (fun _ => 0) ++
    (Nat.digits 256 (ofDigits 58 digits)).reverse.map UInt8.ofNat
  if h : bytes.length = 32 then some ⟨bytes, h⟩ else none

def base64 : List Char :=
  "ABCDEFGHIJKLMNOPQRSTUVWXYZabcdefghijklmnopqrstuvwxyz0123456789+/".toList

/-- Four characters for three bytes. -/
def base64Group (a b c : ℕ) : List Char :=
  [a / 4, a % 4 * 16 + b / 16, b % 16 * 4 + c / 64, c % 64].map fun d => base64.getD d 'A'

def printBase64 : List UInt8 → List Char
  | [] => []
  | [a] => (base64Group a.toNat 0 0).take 2 ++ ['=', '=']
  | [a, b] => (base64Group a.toNat b.toNat 0).take 3 ++ ['=']
  | a :: b :: c :: rest => base64Group a.toNat b.toNat c.toNat ++ printBase64 rest

/-- Whole groups of four, the padding digits as zero. -/
def parseBase64 : List ℕ → List UInt8
  | a :: b :: c :: d :: rest =>
    [UInt8.ofNat (a * 4 + b / 16), UInt8.ofNat (b * 16 + c / 4), UInt8.ofNat (c * 64 + d)] ++
      parseBase64 rest
  | _ => []

def decodeBase64 (text : String) : Except String (List UInt8) :=
  let padding := (text.toList.filter fun c => c = '=').length
  match (text.toList.filter fun c => c ≠ '=').mapM fun c => base64.idxOf? c with
  | some digits =>
    if (digits.length + padding) % 4 = 0 then
      .ok ((parseBase64 (digits ++ List.replicate padding 0)).rdrop padding)
    else .error "Invalid padding"
  | none => .error "Invalid symbol"

mutual

def printJson : Json → String
  | .null => "null"
  | .bool b => toString b
  | .int n => toString n
  | .float text => text
  | .str s => s.quote
  | .arr xs => "[" ++ printElements xs ++ "]"
  | .obj fields => "\x7b" ++ printFields fields ++ "\x7d"

def printElements : List Json → String
  | [] => ""
  | [x] => printJson x
  | x :: xs => printJson x ++ "," ++ printElements xs

def printFields : List (String × Json) → String
  | [] => ""
  | [(name, x)] => name.quote ++ ":" ++ printJson x
  | (name, x) :: fields => name.quote ++ ":" ++ printJson x ++ "," ++ printFields fields

end

def printBytes (bytes : List UInt8) : String :=
  "[" ++ ",".intercalate (bytes.map fun b => toString b.toNat) ++ "]"

/-- Numbers below 256 between brackets. -/
def parseBytes (text : List UInt8) : Except String (List UInt8) :=
  let inner := String.ofList ((text.map fun b => Char.ofNat b.toNat).filter fun c =>
    c ≠ '[' && c ≠ ']' && !c.isWhitespace)
  match (inner.splitOn ",").mapM String.toNat? with
  | some ns => if ns.all (· < 256) then .ok (ns.map UInt8.ofNat) else .error "invalid value"
  | none => .error "expected value"

/-- The payer's file holds the seed and the public key that belongs to it. -/
def keypairTryFrom (bytes : List UInt8) : Option Ed25519Keypair :=
  if bytes.length = 64 then
    let ed : Ed25519Keypair := ⟨Buffer.readVec 32 bytes 0⟩
    if (ed.publicBytes crypto).toList = bytes.drop 32 then some ed else none
  else none

/-- One record for a message of any length. -/
def newEd25519Instruction (message : List UInt8) (signature : ByteVec 64) (key : ByteVec 32) :
    Instruction where
  programId := ed25519ProgramId
  accounts := []
  data := [1, 0, 48, 0, 0xFF, 0xFF, 16, 0, 0xFF, 0xFF, 112, 0, UInt8.ofNat message.length,
    UInt8.ofNat (message.length / 256), 0xFF, 0xFF] ++ (key.toList ++ (signature.toList ++ message))

def sdk : Sdk where
  parsePubkey := parseBase58
  printPubkey key := printBase58 key.toList
  parseHash := parseBase58
  base64Encode bytes := String.ofList (printBase64 bytes)
  base64Decode := decodeBase64
  printJson := printJson
  prettyJson value := .ok (printJson value).toUTF8.toList
  bytesToJson bytes := .ok (printBytes bytes).toUTF8.toList
  bytesFromJson := parseBytes
  falconSecretKeyOk bytes := decide (bytes.length = falconSecretKeyLen)
  keypairTryFrom := keypairTryFrom
  newEd25519Instruction := newEd25519Instruction
  newMessage := compileMessage
  serializeMessage message := .ok message.bytes
  serializeTransaction tx := .ok tx.bytes

theorem sdk_documented : sdk.Documented where
  newMessage _ _ _ := rfl
  serializeMessage _ := rfl
  serializeTransaction _ := rfl
  newEd25519Instruction digest signature key := by
    show newEd25519Instruction digest.toList signature key = _
    rw [newEd25519Instruction, List.Vector.toList_length]
    rfl

theorem ed25519_correct (ed : Ed25519Keypair) : ed.Correct crypto.ed25519 where
  verifyingKeyOk := rfl
  sign_verify _ := decide_eq_true rfl

/-- Switch recovery on, with the nonce of the chain, and send the transaction. -/
def enable : Command := .recoverEnable {
  keysDir := ["keys"]
  programId := "US517G5965aydkZ46HS38QLi7UQiSojurfbQfKCELFx"
  hybridAccount := "Eco2qNCivYVHLoZrE7WHc4xMouQE4RtBrvdwvDVZKqEj"
  nonce := none
  expirySlot := 100
  broadcast := ⟨true, some "http://127.0.0.1:8899", some ["payer.json"]⟩
  out := none }

end SampleSdk

open SampleCrypto SampleSdk in
theorem command_confined_enable :
    Within (enable.scope.Permits crypto sdk) Io.isSend 1
      (enable.run Sample.platform crypto Hex.standard sdk) :=
  command_confined sdk_documented ed25519_correct enable

end DualKey
