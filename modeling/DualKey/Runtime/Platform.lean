import DualKey.Runtime.Machine

/-!
# The platform

What the program uses but does not contain: the hash and address-derivation
syscalls, the Falcon-512 and Ed25519 verifiers, and the token programs. `Platform`
collects them as parameters, with the documented facts the program relies on as
fields. The addresses of the native programs are fixed constants.
-/

namespace DualKey

/-- The instructions sysvar. -/
def instructionsSysvarId : Pubkey :=
  ⟨[6, 167, 213, 23, 24, 123, 209, 102, 53, 218, 212, 4, 85, 253, 194, 192, 193, 36, 198, 143,
    33, 86, 117, 165, 219, 186, 203, 95, 8, 0, 0, 0], rfl⟩

/-- The Ed25519 signature-verification precompile. -/
def ed25519ProgramId : Pubkey :=
  ⟨[3, 125, 70, 214, 124, 147, 251, 190, 18, 249, 66, 143, 131, 141, 64, 255, 5, 112, 116, 73,
    39, 244, 138, 100, 252, 202, 112, 68, 128, 0, 0, 0], rfl⟩

/-- The classic SPL Token program. -/
def tokenProgramId : Pubkey :=
  ⟨[6, 221, 246, 225, 215, 101, 161, 147, 217, 203, 225, 70, 206, 235, 121, 172, 28, 180, 133,
    237, 95, 91, 55, 145, 58, 140, 245, 133, 126, 255, 0, 169], rfl⟩

/-- The Token-2022 program. -/
def token2022ProgramId : Pubkey :=
  ⟨[6, 221, 246, 225, 238, 117, 143, 222, 24, 66, 93, 188, 228, 108, 205, 218, 182, 26, 252, 77,
    131, 185, 13, 39, 254, 189, 249, 40, 216, 161, 139, 252], rfl⟩

/-- Balance and data of an account, which a token transfer may replace. -/
structure TokenState where
  lamports : UInt64
  data : List UInt8
deriving DecidableEq

/-- The third-party code and the deployment the program runs on. -/
structure Platform where
  /-- The address the program is deployed at. -/
  programId : Pubkey
  /-- The cluster feature the binary was built with. -/
  cluster : Cluster
  /-- `sol_sha256` of one byte string. -/
  sha256 : List UInt8 → Digest
  /-- `Pubkey::try_find_program_address`: address and canonical bump. -/
  tryFindProgramAddress : List (List UInt8) → Pubkey → Option (Pubkey × UInt8)
  /-- `Pubkey::create_program_address`: the address of a seed list, bump included. -/
  createProgramAddress : List (List UInt8) → Pubkey → Option Pubkey
  /-- A found address is created from the same seeds followed by the bump. -/
  find_spec : ∀ seeds address bump,
    tryFindProgramAddress seeds programId = some (address, bump) →
      createProgramAddress (seeds ++ [[bump]]) programId = some address
  /-- Whether `Falcon512PreparedPubkey::try_from_slice` accepts. -/
  falconPreparedOk : List UInt8 → Bool
  /-- Whether `Falcon512Pubkey::try_from_slice` accepts. -/
  falconPubkeyOk : List UInt8 → Bool
  /-- Whether `Falcon512Signature::try_from_slice` accepts. -/
  falconSignatureOk : List UInt8 → Bool
  /-- `Falcon512Signature::verify_with_prepared(message, prepared)`. -/
  falconVerifyWithPrepared : (signature message prepared : List UInt8) → Bool
  /-- `Falcon512Signature::verify(message, pubkey)`. -/
  falconVerify : (signature message pubkey : List UInt8) → Bool
  /-- `Falcon512Pubkey::try_prepare_pubkey`. -/
  tryPreparePubkey : List UInt8 → Option PreparedFalconPubkey
  /-- Ed25519 verification as the precompile performs it. -/
  ed25519Verify : (pubkey : Pubkey) → (message : List UInt8) → (signature : ByteVec 64) → Bool
  /-- A token program's `TransferChecked` on source, mint and destination: the new
  source and destination. -/
  transferChecked : Instruction → (source mint destination : Account) →
    Option (TokenState × TokenState)
  /-- The runtime rejects a callee that creates or destroys lamports. -/
  transferChecked_lamports : ∀ ix source mint destination source' destination',
    transferChecked ix source mint destination = some (source', destination') →
      source'.lamports.toNat + destination'.lamports.toNat =
        source.lamports.toNat + destination.lamports.toNat
  /-- The program is none of the native programs it calls. -/
  programId_ne_system : programId ≠ systemProgramId
  programId_ne_token : programId ≠ tokenProgramId ∧ programId ≠ token2022ProgramId

namespace Platform

variable (P : Platform)

/-- The compile-time chain domain of the binary. -/
def chainDomain : ByteVec 32 := P.cluster.chainDomain

/-- The addresses this program can sign for. -/
def IsPda (a : Pubkey) : Prop := ∃ seeds, P.createProgramAddress seeds P.programId = some a

end Platform

end DualKey
