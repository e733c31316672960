import DualKey.Client.Keys

/-!
# Calls to a cluster

A JSON-RPC client over blocking HTTP. `sendInstructions` signs a legacy transaction with the
payer alone, sends it once, and polls its status at most sixty times.
-/

namespace DualKey

open Session

variable {Coins : Type} (crypto : Crypto Coins) (sdk : Sdk)

/-- Broadcast and chain-read options of a command. -/
structure BroadcastOpts where
  broadcast : Bool
  rpcUrl : Option String
  payerPath : Option PathBuf
deriving DecidableEq

/-- The URL and the payer, which a broadcast needs. -/
def BroadcastOpts.requireForBroadcast (opts : BroadcastOpts) : ClientRes (String × PathBuf) :=
  if opts.broadcast = false then
    .error (.intentFormat "broadcast"
      "internal: require_for_broadcast called without --broadcast")
  else
    match opts.rpcUrl, opts.payerPath with
    | none, _ => .error (.intentFormat "rpc-url" "--broadcast requires --rpc-url")
    | some _, none =>
      .error (.intentFormat "payer" "--broadcast requires --payer <keypair.json>")
    | some url, some payer => .ok (url, payer)

/-- A cluster, by its URL. -/
structure Rpc where
  url : String

namespace Rpc

/-- The body of a request. -/
def requestBody (method : String) (params : Json) : Json :=
  .obj [("jsonrpc", .str "2.0"), ("id", .int 1), ("method", .str method), ("params", params)]

variable (rpc : Rpc)

/-- One call. An error in the reply wins over a result. -/
def call (method : String) (params : Json) : Session Coins Json := do
  let resp ← post rpc.url (requestBody method params)
  match resp.error with
  | some err => Dialogue.throw (.rpc (sdk.printJson err))
  | none => okOr resp.result (.rpc "empty RPC result")

/-- The option list of a read. -/
def confirmed : Json := .obj [("commitment", .str "confirmed")]

def getLatestBlockhash : Session Coins (ByteVec 32) := do
  let result ← rpc.call sdk "getLatestBlockhash" (.arr [confirmed])
  let hashStr ← okOr ((result.pointer ["value", "blockhash"]).bind Json.asStr)
    (.rpc "missing blockhash")
  okOr (sdk.parseHash hashStr) (.rpc ("bad blockhash " ++ hashStr))

def getSlot : Session Coins UInt64 := do
  let result ← rpc.call sdk "getSlot" (.arr [confirmed])
  okOr result.asU64 (.rpc "bad slot")

def accountParams (account : Pubkey) : Json :=
  .arr [.str (sdk.printPubkey account), .obj [("encoding", .str "base64"),
    ("commitment", .str "confirmed")]]

/-- The data of an account, of any length. -/
def getAccountData (account : Pubkey) : Session Coins (List UInt8) := do
  let result ← rpc.call sdk "getAccountInfo" (accountParams sdk account)
  let b64 ← okOr ((result.pointer ["value", "data", "0"]).bind Json.asStr)
    (.rpc ("account " ++ sdk.printPubkey account ++ " not found"))
  mapErr (sdk.base64Decode b64) .rpc

/-- The nonce a vault stores. -/
def getHybridNonce (account : Pubkey) : Session Coins UInt64 := do
  let data ← rpc.getAccountData sdk account
  match HybridAccount.nonceFromSlice data with
  | .ok nonce => pure nonce
  | .error _ => Dialogue.throw (.client (.intentFormat (sdk.printPubkey account)
      "account is not a DualKey HybridAccount"))

/-! ### Confirmation -/

/-- What a status reply says about a transaction. -/
inductive Status where
  | failed (err : Json)
  | confirmed
  | pending

/-- A status entry with an error has failed, whatever else it says. -/
def status (reply : Json) : Status :=
  match reply.pointer ["value", "0"] with
  | none => .pending
  | some entry =>
    if entry.isNull then .pending
    else
      match (entry.get "err").filter fun err => !err.isNull with
      | some err => .failed err
      | none =>
        let conf := ((entry.pointer ["confirmationStatus"]).bind Json.asStr).getD ""
        if conf = "confirmed" ∨ conf = "finalized" then .confirmed else .pending

def statusParams (sig : String) : Json :=
  .arr [.arr [.str sig], .obj [("searchTransactionHistory", .bool true)]]

def notConfirmed (sig : String) : CommandError :=
  .rpc ("transaction " ++ sig ++ " not confirmed in time")

def transactionFailed (sig : String) (err : Json) : CommandError :=
  .rpc ("transaction " ++ sig ++ " failed: " ++ sdk.printJson err)

/-- Ask for the status of a transaction, at most that many times. -/
def poll (sig : String) : ℕ → Session Coins String
  | 0 => Dialogue.throw (notConfirmed sig)
  | n + 1 => do
    let reply ← rpc.call sdk "getSignatureStatuses" (statusParams sig)
    match status reply with
    | .failed err => Dialogue.throw (transactionFailed sdk sig err)
    | .confirmed => pure sig
    | .pending => do
      sleep 500
      poll sig n

/-- How often the status is asked for. -/
def maxPolls : ℕ := 60

def sendParams (wire : List UInt8) : Json :=
  .arr [.str (sdk.base64Encode wire), .obj [("encoding", .str "base64"),
    ("skipPreflight", .bool false), ("preflightCommitment", .str "confirmed")]]

/-- Send a transaction once and wait for its confirmation. -/
def sendAndConfirm (tx : Transaction) : Session Coins String := do
  let wire ← mapErr (sdk.serializeTransaction tx) .rpc
  let result ← rpc.call sdk "sendTransaction" (sendParams sdk wire)
  let sig ← okOr result.asStr (.rpc "missing signature")
  rpc.poll sdk sig maxPolls

end Rpc

/-! ### Signing a transaction -/

/-- Load a payer keypair from its JSON byte array. -/
def loadPayer (path : PathBuf) : Session Coins Ed25519Keypair := do
  let bytes ← readFile path
  let arr ← mapErr (sdk.bytesFromJson bytes) fun e =>
    .client (.intentFormat path.display ("payer keypair JSON: " ++ e))
  okOr (sdk.keypairTryFrom arr) (.ed25519Key "invalid payer keypair")

/-- The message of the instructions, paid for by `payer`. -/
def legacyMessage (payer : Pubkey) (instructions : List Instruction) (blockhash : ByteVec 32) :
    LegacyMessage :=
  { sdk.newMessage instructions payer with recentBlockhash := blockhash }

/-- Sign as the payer. The other signatures a message asks for stay zero. -/
def signLegacyTransaction (payer : Ed25519Keypair) (instructions : List Instruction)
    (blockhash : ByteVec 32) : Session Coins Transaction := do
  let message := legacyMessage sdk (payer.publicBytes crypto) instructions blockhash
  let messageBytes ← mapErr (sdk.serializeMessage message) .rpc
  let signatures := List.replicate message.numRequiredSignatures.toNat (ByteVec.zero 64)
  pure { signatures := signatures.set 0 (crypto.ed25519.sign payer.signing messageBytes), message }

/-- Sign a legacy transaction and broadcast it. -/
def sendInstructions (rpc : Rpc) (payer : Ed25519Keypair) (instructions : List Instruction) :
    Session Coins String := do
  let blockhash ← rpc.getLatestBlockhash sdk
  let tx ← signLegacyTransaction crypto sdk payer instructions blockhash
  rpc.sendAndConfirm sdk tx

end DualKey
