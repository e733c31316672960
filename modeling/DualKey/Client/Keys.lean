import DualKey.Client.Session

/-!
# Key files

A key directory holds the two key pairs in raw bytes, the Ed25519 pair a second time as JSON,
the prepared Falcon key, and a manifest. Files with secret material have mode `0600`, the
others `0644`. `writeWithMode` creates a file with its mode, writes it, and sets the mode once
more in case the file was there before.
-/

namespace DualKey

open Hex (Codec)

/-- Mode of files with secret material. -/
def secretMode : UInt32 := 0o600
/-- Mode of public files. -/
def publicMode : UInt32 := 0o644

def ed25519SkFile : String := "ed25519.sk"
def ed25519PkFile : String := "ed25519.pk"
def ed25519IdFile : String := "ed25519-id.json"
def falconSkFile : String := "falcon512.sk"
def falconPkFile : String := "falcon512.pk"
def falconPreparedFile : String := "falcon512.prepared"
def keysetFile : String := "keyset.json"

/-- The files that hold secret material. -/
def secretFiles : List String := [ed25519SkFile, ed25519IdFile, falconSkFile]

/-- `falcon512::secret_key_bytes()`. -/
def falconSecretKeyLen : ℕ := 1281

/-- The paths of a key directory. -/
structure KeyPaths where
  dir : PathBuf

namespace KeyPaths

variable (paths : KeyPaths)

def ed25519Sk : PathBuf := paths.dir.join ed25519SkFile
def ed25519Pk : PathBuf := paths.dir.join ed25519PkFile
def ed25519Id : PathBuf := paths.dir.join ed25519IdFile
def falconSk : PathBuf := paths.dir.join falconSkFile
def falconPk : PathBuf := paths.dir.join falconPkFile
def falconPrepared : PathBuf := paths.dir.join falconPreparedFile
def keyset : PathBuf := paths.dir.join keysetFile

end KeyPaths

variable {Coins : Type}

open Session

/-- Write a file that is created with `mode`; a file that exists gets the mode at the end. -/
def writeWithMode (path : PathBuf) (bytes : List UInt8) (mode : UInt32) : Session Coins Unit := do
  file (.openFile path mode)
  file (.writeAll path bytes)
  file (.syncAll path)
  file (.setPermissions path mode)

/-- Read a file of exactly that many bytes. -/
def readExactLen (path : PathBuf) (expected : ℕ) : Session Coins (List UInt8) := do
  let bytes ← readFile path
  failIf (bytes.length ≠ expected)
    (.client (.keyFileLength path.display expected bytes.length))
  pure bytes

variable (crypto : Crypto Coins) (hex : Codec) (sdk : Sdk)

/-! ### Ed25519 -/

namespace Ed25519Keypair

def generate : Session Coins Ed25519Keypair := do
  let seed ← fillBytes
  pure ⟨seed⟩

def fromSeed (seed : List UInt8) : Session Coins Ed25519Keypair :=
  if h : seed.length = 32 then pure ⟨⟨seed, h⟩⟩
  else Dialogue.throw (.ed25519Key "seed must be 32 bytes")

def publicBytes (ed : Ed25519Keypair) : ByteVec 32 := crypto.ed25519.publicBytes ed.signing

/-- The seed followed by the public key. -/
def idJsonBytes (ed : Ed25519Keypair) : List UInt8 :=
  ed.signing.toList ++ (ed.publicBytes crypto).toList

def write (ed : Ed25519Keypair) (paths : KeyPaths) : Session Coins Unit := do
  writeWithMode paths.ed25519Sk ed.signing.toList secretMode
  writeWithMode paths.ed25519Pk (ed.publicBytes crypto).toList publicMode
  let json ← mapErr (sdk.bytesToJson (ed.idJsonBytes crypto)) .json
  writeWithMode paths.ed25519Id json secretMode

def load (paths : KeyPaths) : Session Coins Ed25519Keypair := do
  let seed ← readExactLen paths.ed25519Sk 32
  fromSeed seed

end Ed25519Keypair

/-! ### Falcon -/

namespace FalconKeypair

def generate : Session Coins FalconKeypair := falconKeypair

/-- The prepared file is made of the public key alone. -/
def write (falcon : FalconKeypair) (paths : KeyPaths) : Session Coins Unit := do
  writeWithMode paths.falconSk falcon.secretKey secretMode
  writeWithMode paths.falconPk falcon.publicKey publicMode
  let prepared ← client (crypto.falcon.preparePubkey falcon.publicKey)
  writeWithMode paths.falconPrepared prepared.toList publicMode

def load (paths : KeyPaths) : Session Coins FalconKeypair := do
  let skBytes ← readExactLen paths.falconSk falconSecretKeyLen
  let pkBytes ← readExactLen paths.falconPk falconWirePubkeyLen
  failIf (sdk.falconSecretKeyOk skBytes = false)
    (.client (.falconKey "PQClean rejected the secret key encoding"))
  failIf (crypto.falcon.publicKeyOk pkBytes = false)
    (.client (.falconKey "PQClean rejected the public key encoding"))
  pure { publicKey := pkBytes, secretKey := skBytes }

end FalconKeypair

/-! ### Public material -/

/-- Public keys, loaded without opening a secret file. -/
structure PublicKeys where
  ed25519 : ByteVec 32
  falconWire : List UInt8

namespace PublicKeys

def load (paths : KeyPaths) : Session Coins PublicKeys := do
  let ed ← readExactLen paths.ed25519Pk 32
  let falconWire ← readExactLen paths.falconPk falconWirePubkeyLen
  if h : ed.length = 32 then pure { ed25519 := ⟨ed, h⟩, falconWire }
  else Dialogue.throw (.ed25519Key "public key must be 32 bytes")

def falconPublicKeyHash (keys : PublicKeys) : Digest := crypto.sha256 keys.falconWire

end PublicKeys

/-- The public manifest. -/
structure KeySet where
  format : String
  ed25519PublicKey : String
  falcon512PublicKey : String
  falcon512PublicKeySha256 : String
  falcon512PreparedPublicKeyLen : ℕ
  notes : String
deriving DecidableEq

namespace KeySet

/-- The manifest of two public keys. -/
def ofPublic (ed25519 : ByteVec 32) (falcon : List UInt8) : KeySet where
  format := "dualkey-keyset-v1"
  ed25519PublicKey := hex.encode ed25519.toList
  falcon512PublicKey := hex.encode falcon
  falcon512PublicKeySha256 := hex.encode (crypto.sha256 falcon).toList
  falcon512PreparedPublicKeyLen := preparedFalconPubkeyLen
  notes := "Public material only. Secret keys live in 0600 files and never on-chain."

def build (ed : Ed25519Keypair) (falcon : FalconKeypair) : KeySet :=
  ofPublic crypto hex (ed.publicBytes crypto) falcon.publicKey

def json (keyset : KeySet) : Json := .obj [
  ("format", .str keyset.format),
  ("ed25519_public_key", .str keyset.ed25519PublicKey),
  ("falcon512_public_key", .str keyset.falcon512PublicKey),
  ("falcon512_public_key_sha256", .str keyset.falcon512PublicKeySha256),
  ("falcon512_prepared_public_key_len", .int keyset.falcon512PreparedPublicKeyLen),
  ("notes", .str keyset.notes)]

def write (keyset : KeySet) (paths : KeyPaths) : Session Coins Unit := do
  let json ← mapErr (sdk.prettyJson keyset.json) .json
  writeWithMode paths.keyset json publicMode

end KeySet

/-! ### Key generation -/

/-- Summary of a key generation. Public material only. -/
structure KeygenReport where
  dir : String
  ed25519PublicKey : String
  falconPublicKeySha256 : String
  falconPublicKeyLen : ℕ
  falconSecretKeyLen : ℕ
  preparedPublicKeyLen : ℕ
  secretFiles : List String
  publicFiles : List String
deriving DecidableEq

/-- Generate a key set in a directory, which is closed to others before a file is written. -/
def keygen (outDir : PathBuf) : Session Coins KeygenReport := do
  file (.createDirAll outDir)
  file (.setPermissions outDir 0o700)
  let paths : KeyPaths := ⟨outDir⟩
  let ed ← Ed25519Keypair.generate
  let falcon ← FalconKeypair.generate
  ed.write crypto sdk paths
  falcon.write crypto paths
  let keyset := KeySet.build crypto hex ed falcon
  keyset.write sdk paths
  pure { dir := outDir.display
         ed25519PublicKey := hex.encode (ed.publicBytes crypto).toList
         falconPublicKeySha256 := keyset.falcon512PublicKeySha256
         falconPublicKeyLen := falconWirePubkeyLen
         falconSecretKeyLen
         preparedPublicKeyLen := preparedFalconPubkeyLen
         secretFiles
         publicFiles := [ed25519PkFile, falconPkFile, falconPreparedFile, keysetFile] }

end DualKey
