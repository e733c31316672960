import DualKey.Client.Error
import DualKey.Client.Sign
import DualKey.Foundations.Dialogue
import DualKey.Runtime.Machine

/-!
# Sessions of the client

A command of the client reads and writes files, draws randomness and calls a cluster over HTTP.
`Io` lists everything it can ask of its surroundings, and a `Session` is a command as a dialogue
of such questions, so what is proved about all paths of a session holds whatever the file system
and the cluster answer.

`Sdk` collects the third-party codecs and the compilation of a transaction.
-/

namespace DualKey

/-! ### Paths and JSON -/

/-- A path, as the list of its components. -/
abbrev PathBuf := List String

namespace PathBuf

def join (dir : PathBuf) (name : String) : PathBuf := dir ++ [name]

def display (path : PathBuf) : String := "/".intercalate path

end PathBuf

/-- A JSON value. A number is an integer or the text of a fraction. -/
inductive Json where
  | null
  | bool (b : Bool)
  | int (n : ℤ)
  | float (text : String)
  | str (s : String)
  | arr (xs : List Json)
  | obj (fields : List (String × Json))

namespace Json

/-- The position a pointer token stands for: decimal, without leading zeros. -/
def parseIndex (token : String) : Option ℕ :=
  match token.toList with
  | [] => none
  | '0' :: _ :: _ => none
  | digits =>
    if digits.all Char.isDigit then some (digits.foldl (fun n c => 10 * n + (c.toNat - 48)) 0)
    else none

/-- The field of that name, or the element at that position. -/
def get (token : String) : Json → Option Json
  | obj fields => (fields.find? fun field => field.1 = token).map Prod.snd
  | arr xs => (parseIndex token).bind fun i => xs[i]?
  | _ => none

/-- Follow the tokens of a pointer. -/
def pointer (value : Json) (tokens : List String) : Option Json :=
  tokens.foldlM (fun v token => v.get token) value

def asStr : Json → Option String
  | str s => some s
  | _ => none

def asU64 : Json → Option UInt64
  | int n => if 0 ≤ n ∧ n < 2 ^ 64 then some (UInt64.ofNat n.toNat) else none
  | _ => none

def isNull : Json → Bool
  | null => true
  | _ => false

/-- An optional text: `null` where there is none. -/
def ofOption : Option String → Json
  | some s => str s
  | none => null

end Json

/-- The two fields of a JSON-RPC reply that are read; `null` counts as absent. -/
structure JsonRpcResponse where
  result : Option Json
  error : Option Json

/-! ### Transactions -/

/-- An instruction of a compiled message: indices into the account keys. -/
structure CompiledInstruction where
  programIdIndex : UInt8
  accounts : List UInt8
  data : List UInt8
deriving DecidableEq

/-- A legacy message. -/
structure LegacyMessage where
  numRequiredSignatures : UInt8
  numReadonlySignedAccounts : UInt8
  numReadonlyUnsignedAccounts : UInt8
  accountKeys : List Pubkey
  recentBlockhash : ByteVec 32
  instructions : List CompiledInstruction
deriving DecidableEq

structure Transaction where
  signatures : List (ByteVec 64)
  message : LegacyMessage
deriving DecidableEq

/-- The third-party code of the client besides its cryptography. A payer keypair is an Ed25519
keypair. -/
structure Sdk where
  /-- `Pubkey::from_str`: base58. -/
  parsePubkey : String → Option Pubkey
  printPubkey : Pubkey → String
  /-- `Hash::from_str`. -/
  parseHash : String → Option (ByteVec 32)
  base64Encode : List UInt8 → String
  base64Decode : String → Except String (List UInt8)
  /-- The compact text of a value. -/
  printJson : Json → String
  /-- `serde_json::to_vec_pretty`. -/
  prettyJson : Json → Except String (List UInt8)
  /-- `serde_json::to_vec` of a byte array. -/
  bytesToJson : List UInt8 → Except String (List UInt8)
  /-- `serde_json::from_slice` into a byte array. -/
  bytesFromJson : List UInt8 → Except String (List UInt8)
  /-- Whether `falcon512::SecretKey::from_bytes` accepts. -/
  falconSecretKeyOk : List UInt8 → Bool
  /-- `Keypair::try_from`. -/
  keypairTryFrom : List UInt8 → Option Ed25519Keypair
  /-- `new_ed25519_instruction_with_signature`. -/
  newEd25519Instruction : (message : List UInt8) → (signature : ByteVec 64) →
    (pubkey : ByteVec 32) → Instruction
  /-- `Message::new` with a payer. -/
  newMessage : List Instruction → Pubkey → LegacyMessage
  /-- `bincode::serialize` of a message. -/
  serializeMessage : LegacyMessage → Except String (List UInt8)
  /-- `bincode::serialize` of a transaction. -/
  serializeTransaction : Transaction → Except String (List UInt8)

/-! ### Questions -/

/-- A change of the file system. -/
inductive FileOp where
  /-- Open for writing: created with the mode if it is missing, truncated if it is there. -/
  | openFile (path : PathBuf) (mode : UInt32)
  | writeAll (path : PathBuf) (bytes : List UInt8)
  | syncAll (path : PathBuf)
  | setPermissions (path : PathBuf) (mode : UInt32)
  | createDirAll (path : PathBuf)
deriving DecidableEq

/-- What a command asks of its surroundings. -/
inductive Io where
  | readFile (path : PathBuf)
  | file (op : FileOp)
  /-- 32 bytes of the operating system's generator. -/
  | fillBytes
  /-- `falcon512::keypair`. -/
  | falconKeypair
  /-- The coins of one Falcon signature. -/
  | falconCoins
  /-- One HTTP request with a JSON body, and the reply as it was deserialized. -/
  | post (url : String) (body : Json)
  | sleep (millis : ℕ)

/-- The answers to a question. What can fail fails with a text. -/
abbrev Io.Answer (Coins : Type) : Io → Type
  | readFile _ => Except String (List UInt8)
  | file _ => Except String Unit
  | fillBytes => ByteVec 32
  | falconKeypair => FalconKeypair
  | falconCoins => Coins
  | post _ _ => Except String JsonRpcResponse
  | sleep _ => Unit

/-- The path an operation is about. -/
def FileOp.path : FileOp → PathBuf
  | openFile path _ => path
  | writeAll path _ => path
  | syncAll path => path
  | setPermissions path _ => path
  | createDirAll path => path

/-- The errors of a command: those of `ClientError`, with the ones that only commands meet. -/
inductive CommandError where
  | client (e : ClientError)
  | io (path : PathBuf) (source : String)
  | ed25519Key (reason : String)
  | json (source : String)
  | invalidAddress (field : String)
  | rpc (text : String)
deriving DecidableEq

/-- A command of the client. -/
abbrev Session (Coins α : Type) := Dialogue (Io.Answer Coins) CommandError α

namespace Session

open Dialogue

variable {Coins α : Type}

/-- An operation of the library part of the client. -/
def client (x : ClientRes α) : Session Coins α := liftM (x.mapError CommandError.client)

instance : MonadLift ClientRes (Session Coins) := ⟨client⟩

/-- A value that is there, or an error. -/
def okOr (x : Option α) (e : CommandError) : Session Coins α :=
  match x with
  | some a => pure a
  | none => throw e

/-- A result whose error text is wrapped. -/
def mapErr (x : Except String α) (f : String → CommandError) : Session Coins α :=
  liftM (x.mapError f)

/-- Fail if the condition holds. -/
def failIf (c : Prop) [Decidable c] (e : CommandError) : Session Coins Unit :=
  if c then throw e else pure ()

/-- A question whose answer is a value or an error text. -/
def asked (q : Io) (x : Io.Answer Coins q → Except String α) (f : String → CommandError) :
    Session Coins α := do
  let answer ← question q
  mapErr (x answer) f

def readFile (path : PathBuf) : Session Coins (List UInt8) :=
  asked (.readFile path) (fun answer => answer) (.io path)

def file (op : FileOp) : Session Coins Unit :=
  asked (.file op) (fun answer => answer) (.io op.path)

def fillBytes : Session Coins (ByteVec 32) := question Io.fillBytes

def falconKeypair : Session Coins FalconKeypair := question Io.falconKeypair

def falconCoins : Session Coins Coins := question Io.falconCoins

def post (url : String) (body : Json) : Session Coins JsonRpcResponse :=
  asked (.post url body) (fun answer => answer) .rpc

def sleep (millis : ℕ) : Session Coins Unit := question (Io.sleep millis)

/-! ### The paths of the primitives -/

section Paths

variable {log : Log (Io.Answer Coins)} {x : ClientRes α} {a : α} {e : CommandError}
  {path : PathBuf}

theorem path_client : Path (client x : Session Coins α) log (.ok a) ↔ log = [] ∧ x = .ok a := by
  rw [client, path_lift]
  cases x <;> simp [Except.mapError]

theorem path_okOr {x : Option α} :
    Path (okOr x e : Session Coins α) log (.ok a) ↔ log = [] ∧ x = some a := by
  cases x with
  | none => simp [okOr, path_throw]
  | some b => simp [okOr, path_done]

/-- The result of a wrapped value. -/
theorem mapError_eq_ok {ε : Type} {x : Except ε α} {f : ε → CommandError} :
    x.mapError f = .ok a ↔ x = .ok a := by
  cases x <;> simp [Except.mapError]

theorem path_mapErr {x : Except String α} {f : String → CommandError} :
    Path (mapErr x f : Session Coins α) log (.ok a) ↔ log = [] ∧ x = .ok a := by
  rw [mapErr, path_lift, mapError_eq_ok]

theorem path_failIf {c : Prop} [Decidable c] {u : Unit} :
    Path (failIf c e : Session Coins Unit) log (.ok u) ↔ log = [] ∧ ¬ c := by
  unfold failIf
  split
  · next h => simp [path_throw, h]
  · next h => simp [path_done, h]

theorem path_asked {q : Io} {x : Io.Answer Coins q → Except String α}
    {f : String → CommandError} {r : Except CommandError α} :
    Path (asked q x f) log r ↔ ∃ answer, log = [⟨q, answer⟩] ∧ (x answer).mapError f = r := by
  show Path (ask q fun answer => mapErr (x answer) f) log r ↔ _
  simp only [path_ask, mapErr, path_lift]
  constructor
  · rintro ⟨answer, _, rfl, rfl, h⟩
    exact ⟨answer, rfl, h⟩
  · rintro ⟨answer, rfl, h⟩
    exact ⟨answer, [], rfl, rfl, h⟩

theorem path_readFile {bytes : List UInt8} :
    Path (readFile path : Session Coins (List UInt8)) log (.ok bytes) ↔
      log = [⟨Io.readFile path, (.ok bytes : Except String (List UInt8))⟩] := by
  rw [readFile, path_asked]
  simp only [mapError_eq_ok]
  constructor
  · rintro ⟨answer, rfl, h⟩
    exact congrArg (fun y => [(⟨Io.readFile path, y⟩ : Σ q, Io.Answer Coins q)]) h
  · intro h
    exact ⟨_, h, rfl⟩

theorem path_file {op : FileOp} {u : Unit} :
    Path (file op : Session Coins Unit) log (.ok u) ↔
      log = [⟨Io.file op, (.ok () : Except String Unit)⟩] := by
  rw [file, path_asked]
  simp only [mapError_eq_ok]
  constructor
  · rintro ⟨answer, rfl, h⟩
    exact congrArg (fun y => [(⟨Io.file op, y⟩ : Σ q, Io.Answer Coins q)]) h
  · intro h
    exact ⟨_, h, rfl⟩

end Paths

/-! ### What the primitives ask -/

section Asking

variable {p : Io → Prop} {c : Io → Bool} {n : ℕ}

theorem within_client (x : ClientRes α) : Within p c n (client x : Session Coins α) := .lift _

theorem within_mapErr (x : Except String α) (f : String → CommandError) :
    Within p c n (mapErr x f : Session Coins α) := .lift _

theorem within_okOr (x : Option α) (e : CommandError) :
    Within p c n (okOr x e : Session Coins α) := by
  cases x with
  | none => exact .throw e
  | some a => exact .pure a

theorem within_failIf (b : Prop) [Decidable b] (e : CommandError) :
    Within p c n (failIf b e : Session Coins Unit) := .ite (fun _ => .throw e) (fun _ => .pure ())

theorem within_asked {q : Io} {x : Io.Answer Coins q → Except String α}
    {f : String → CommandError} (hq : p q) (hc : c q = false) : Within p c n (asked q x f) :=
  (Within.question hq hc).bind_right fun _ _ _ => within_mapErr _ _

theorem within_asked_one {q : Io} {x : Io.Answer Coins q → Except String α}
    {f : String → CommandError} (hq : p q) : Within p c 1 (asked q x f) :=
  Within.bind (k := 0) (.question_one hq) fun _ _ _ => within_mapErr _ _

end Asking

end Session

end DualKey
