import DualKey.Program.Processor

/-!
# What a successful instruction does

`Performs` lists the eleven things an instruction can do to a vault that exists, each
with everything its handler checked and the machine it left. `Outcome` adds the
creation of a vault and the harness. `process_outcome` is the inversion of the
processor: every later fact about a step is a case analysis on `Outcome`, and none
unfolds a handler.
-/

namespace DualKey

variable (P : Platform)

/-- What an instruction does to the vault it names. -/
inductive VaultOp where
  | transferSol (recipient : Pubkey) (lamports : UInt64)
  | transferSpl (destination : Pubkey) (amount : UInt64)
  | rotateEd25519 (newPubkey : Pubkey)
  | rotateFalcon (newPubkeyHash : Digest) (prepared : PreparedFalconPubkey)
  | changePolicy (target : AuthorizationPolicy) (threshold : Option UInt64)
  | setRecovery (enabled : Bool)
  | recoverEd25519 (newEd25519 : Pubkey)
  | setConfig (guardian : Pubkey) (delay : UInt64)
  | initiate (newEd25519 : Pubkey) (ready : UInt64)
  | finalize (pending : Pubkey)
  | cancel
deriving DecidableEq

namespace VaultOp

/-- Every operation but a guardian's proposal consumes a nonce. -/
def consumesNonce : VaultOp → Bool
  | initiate .. => false
  | _ => true

/-- The instruction that performs an operation. -/
def instruction : VaultOp → DualKeyInstruction
  | transferSol .. => .execute
  | transferSpl .. => .execute
  | rotateEd25519 .. => .rotateEd25519Key
  | rotateFalcon .. => .rotateFalconKey
  | changePolicy .. => .changePolicy
  | setRecovery .. => .recoverAccount
  | recoverEd25519 .. => .recoverAccount
  | setConfig .. => .setRecoveryConfig
  | initiate .. => .initiateSocialRecovery
  | finalize .. => .finalizeSocialRecovery
  | cancel => .cancelSocialRecovery

/-- The operations of `Execute`. -/
def isTransfer : VaultOp → Bool
  | transferSol .. => true
  | transferSpl .. => true
  | _ => false

/-- The operations that replace the Ed25519 owner. -/
def changesOwner : VaultOp → Bool
  | rotateEd25519 .. => true
  | recoverEd25519 .. => true
  | finalize .. => true
  | _ => false

/-- The operations that write the recovery config. -/
def touchesConfig : VaultOp → Bool
  | rotateEd25519 .. => true
  | recoverEd25519 .. => true
  | setConfig .. => true
  | initiate .. => true
  | finalize .. => true
  | cancel => true
  | _ => false

/-- The operations that need the recovery flag. -/
def usesRecovery : VaultOp → Bool
  | recoverEd25519 .. => true
  | initiate .. => true
  | finalize .. => true
  | cancel => true
  | _ => false

end VaultOp

namespace Invocation

/-- The instruction data behind the discriminator. -/
def payload (inv : Invocation) : List UInt8 := inv.data.tail

/-- The instruction the discriminator selects. -/
def instruction (inv : Invocation) : Option DualKeyInstruction :=
  inv.data.head?.bind DualKeyInstruction.fromU8

/-- The live instruction an invocation calls, with the vault it names: the second account of
`Initialize`, the first of every other live instruction. -/
def call (inv : Invocation) : Option (DualKeyInstruction × Pubkey) :=
  match inv.instruction with
  | none => none
  | some .initializeAccount =>
    inv.accounts[1]?.map fun a => (.initializeAccount, a.key)
  | some ix =>
    if ix.isVerificationHarness then none else inv.accounts.head?.map fun a => (ix, a.key)

end Invocation

/-! ### The operations -/

/-- The instruction performs an operation on a vault. -/
inductive Performs (inv : Invocation) (m : Machine) (vault : AccountInfo) :
    VaultOp → Machine → Prop where
  | transferSol {recipient sysvar wire falconSig amount a auth m'}
    (hpresents : Presents inv.payload wire falconSig)
    (hc : Execute.SolChecks P inv m vault recipient sysvar wire falconSig amount a auth)
    (hmoves : Execute.MovesSol inv (m.setData vault.key (a.setNonce auth.nextNonce).data) vault.key
      recipient.key amount m') :
    Performs inv m vault (.transferSol recipient.key amount) m'
  | transferSpl {creator source mint destination tokenProgram sysvar wire falconSig amount a auth
      decimals m'}
    (hpresents : Presents inv.payload wire falconSig)
    (hc : Execute.SplChecks P inv m vault creator source mint destination tokenProgram sysvar wire
      falconSig amount a auth decimals)
    (hmoves : Execute.MovesSpl P inv (m.setData vault.key (a.setNonce auth.nextNonce).data) amount
      (Execute.splCpi vault creator source mint destination tokenProgram amount a decimals) m') :
    Performs inv m vault (.transferSpl destination.key amount) m'
  | rotateEd25519 {config sysvar wire falconSig newPubkey a auth m'}
    (hpresents : Presents inv.payload wire falconSig)
    (hc : Rotate.Ed25519Checks P inv m vault config sysvar wire falconSig newPubkey a auth)
    (hclears : SocialRecovery.ClearsPending P
      (m.setData vault.key ((a.setNonce auth.nextNonce).setOwnerEd25519 newPubkey).data) config
        m') :
    Performs inv m vault (.rotateEd25519 newPubkey) m'
  | rotateFalcon {sysvar wire falconSig newWirePk falconPop prepared a auth}
    (hpresents : Presents inv.payload wire falconSig)
    (hkey : Rotate.PresentsKey inv.payload newWirePk falconPop)
    (hc : Rotate.FalconChecks P inv m vault sysvar wire falconSig newWirePk falconPop prepared a
      auth) :
    Performs inv m vault (.rotateFalcon (P.sha256 newWirePk) prepared)
      (m.setData vault.key (((a.setNonce auth.nextNonce).setFalconPublicKeyHash
        (P.sha256 newWirePk)).setPreparedFalconPublicKey prepared).data)
  | changePolicy {sysvar wire falconSig newPolicy threshold target a auth}
    (hpresents : Presents inv.payload wire falconSig)
    (hc : ChangePolicy.Checks P inv m vault sysvar wire falconSig newPolicy threshold target a
      auth) :
    Performs inv m vault
      (.changePolicy target (ChangePolicy.resultingThreshold target threshold))
      (m.setData vault.key (ChangePolicy.changed a auth target threshold).data)
  | setRecovery {sysvar wire falconSig enabled a auth}
    (hpresents : Presents inv.payload wire falconSig)
    (hc : Recover.FlagChecks P inv m vault sysvar wire falconSig enabled a auth) :
    Performs inv m vault (.setRecovery enabled)
      (m.setData vault.key ((a.setNonce auth.nextNonce).setRecoveryEnabled enabled).data)
  | recoverEd25519 {config sysvar wire falconSig newEd25519 a auth m'}
    (hpresents : Presents inv.payload wire falconSig)
    (hc : Recover.RotateChecks P inv m vault config sysvar wire falconSig newEd25519 a auth)
    (hclears : SocialRecovery.ClearsPending P
      (m.setData vault.key ((a.setNonce auth.nextNonce).setOwnerEd25519 newEd25519).data) config
        m') :
    Performs inv m vault (.recoverEd25519 newEd25519) m'
  | setConfig {config payer sysvar wire falconSig guardian delay bump a auth m₁}
    (hpresents : Presents inv.payload wire falconSig)
    (hc : SocialRecovery.SetChecks P inv m vault config payer sysvar wire falconSig guardian delay
      bump a auth)
    (hstores : SocialRecovery.StoresConfig P inv m payer config vault.key bump guardian delay m₁) :
    Performs inv m vault (.setConfig guardian delay)
      (m₁.setData vault.key (a.setNonce auth.nextNonce).data)
  | initiate {config sysvar newEd25519 ready a c}
    (hpayload : newEd25519.toList = inv.payload)
    (hc : SocialRecovery.InitiateChecks P inv m vault config sysvar newEd25519 ready a c) :
    Performs inv m vault (.initiate newEd25519 ready)
      (m.setData config.key ((c.setPendingNewEd25519 newEd25519).setPendingReadySlot ready).data)
  | finalize {config pending ready next a c}
    (hc : SocialRecovery.FinalizeChecks P inv m vault config pending ready next a c) :
    Performs inv m vault (.finalize pending)
      ((m.setData config.key c.clearPending.data).setData vault.key
        ((a.setOwnerEd25519 pending).setNonce next).data)
  | cancel {config sysvar wire falconSig a c auth}
    (hpresents : Presents inv.payload wire falconSig)
    (hc : SocialRecovery.CancelChecks P inv m vault config sysvar wire falconSig a c auth) :
    Performs inv m vault .cancel
      ((m.setData config.key c.clearPending.data).setData vault.key
        (a.setNonce auth.nextNonce).data)

/-- What a successful instruction did. -/
inductive Outcome (inv : Invocation) (m : Machine) : Machine → Prop where
  | harness {ix : DualKeyInstruction} (hix : inv.instruction = some ix)
    (hharness : ix.isVerificationHarness = true) : Outcome inv m m
  | created {creator vault : AccountInfo} {args : Initialize.Args} {bump : UInt8} {m₁ : Machine}
    {a : HybridAccount} (hix : inv.instruction = some .initializeAccount)
    (h : Initialize.Succeeds P inv inv.payload m creator vault args bump m₁ a) :
    Outcome inv m ((m₁.allot P.programId vault.key (UInt64.ofNat accountDataLen)
      (Pda.signerSeeds creator.key args.accountIndex bump)).setData vault.key a.data)
  | performed {vault : AccountInfo} {op : VaultOp} {m' : Machine}
    (h : Performs P inv m vault op m') (hix : inv.instruction = some op.instruction) :
    Outcome inv m m'

variable {P} {inv : Invocation} {m m' : Machine}

/-- An instruction runs its handler on the payload. -/
theorem process_of_instruction {ix : DualKeyInstruction} (hix : inv.instruction = some ix) :
    Processor.process P inv.accounts inv.data =
      Processor.handler P ix inv.accounts inv.payload := by
  rw [Invocation.instruction, Option.bind_eq_some_iff] at hix
  obtain ⟨b, hhead, hb⟩ := hix
  obtain ⟨tail, hdata⟩ := List.head?_eq_some_iff.mp hhead
  rw [Invocation.payload, hdata, DualKeyInstruction.fromU8_eq_some.mp hb]
  exact Processor.process_asU8 ix inv.accounts

/-- **Inversion of the processor.** -/
theorem process_outcome {u : Unit}
    (h : Processor.process P inv.accounts inv.data inv.enter m = .ok (u, m')) :
    Outcome P inv m m' := by
  obtain ⟨ix, payload, hdata, h⟩ := Processor.process_eq_ok.mp h
  have hpayload : payload = inv.payload := by rw [Invocation.payload, hdata]; rfl
  have hix : inv.instruction = some ix := by
    rw [Invocation.instruction, hdata]
    exact DualKeyInstruction.fromU8_eq_some.mpr rfl
  subst hpayload
  cases ix with
  | initializeAccount =>
    obtain ⟨creator, vault, args, bump, m₁, a, hs, rfl⟩ := Initialize.process_eq_ok.mp h
    exact .created hix hs
  | execute =>
    obtain ⟨-, wire, falconSig, hpresents, h⟩ := Execute.process_eq_ok.mp h
    -- one instruction, two kinds of transfer
    rcases h with h | h
    · obtain ⟨amount, vault, recipient, sysvar, a, auth, hc, hmoves⟩ := h
      exact .performed (.transferSol hpresents hc hmoves) hix
    · obtain ⟨amount, vault, creator, source, mint, destination, tokenProgram, sysvar, h⟩ := h
      obtain ⟨a, auth, decimals, hc, hmoves⟩ := h
      exact .performed (.transferSpl hpresents hc hmoves) hix
  | rotateEd25519Key =>
    obtain ⟨-, wire, falconSig, hpresents, h⟩ := Rotate.processRotateEd25519_eq_ok.mp h
    obtain ⟨vault, config, sysvar, newPubkey, a, auth, hc, hclears⟩ := h
    exact .performed (.rotateEd25519 hpresents hc hclears) hix
  | rotateFalconKey =>
    obtain ⟨-, wire, falconSig, newWirePk, falconPop, hpresents, hkey, h⟩ :=
      Rotate.processRotateFalcon_eq_ok.mp h
    obtain ⟨vault, sysvar, prepared, a, auth, hc, rfl⟩ := h
    exact .performed (.rotateFalcon hpresents hkey hc) hix
  | changePolicy =>
    obtain ⟨-, wire, falconSig, hpresents, h⟩ := ChangePolicy.process_eq_ok.mp h
    obtain ⟨vault, sysvar, newPolicy, threshold, target, a, auth, hc, rfl⟩ := h
    exact .performed (.changePolicy hpresents hc) hix
  | recoverAccount =>
    obtain ⟨-, wire, falconSig, hpresents, h⟩ := Recover.process_eq_ok.mp h
    -- a change of the flag, or a rotation that relies on it
    rcases h with h | h
    · obtain ⟨enabled, vault, sysvar, a, auth, hc, rfl⟩ := h
      exact .performed (.setRecovery hpresents hc) hix
    · obtain ⟨key, vault, config, sysvar, a, auth, hc, hclears⟩ := h
      exact .performed (.recoverEd25519 hpresents hc hclears) hix
  | setRecoveryConfig =>
    obtain ⟨-, wire, falconSig, hpresents, h⟩ :=
      SocialRecovery.processSetRecoveryConfig_eq_ok.mp h
    obtain ⟨vault, config, payer, sysvar, guardian, delay, bump, a, auth, m₁, hc, hstores, rfl⟩ := h
    exact .performed (.setConfig hpresents hc hstores) hix
  | initiateSocialRecovery =>
    obtain ⟨newEd25519, hkey, h⟩ := SocialRecovery.processInitiateSocialRecovery_eq_ok.mp h
    obtain ⟨vault, config, sysvar, ready, a, c, hc, rfl⟩ := h
    exact .performed (.initiate hkey hc) hix
  | finalizeSocialRecovery =>
    obtain ⟨-, h⟩ := SocialRecovery.processFinalizeSocialRecovery_eq_ok.mp h
    obtain ⟨vault, config, pending, ready, next, a, c, hc, rfl⟩ := h
    exact .performed (.finalize hc) hix
  | cancelSocialRecovery =>
    obtain ⟨-, wire, falconSig, hpresents, h⟩ :=
      SocialRecovery.processCancelSocialRecovery_eq_ok.mp h
    obtain ⟨vault, config, sysvar, a, c, auth, hc, rfl⟩ := h
    exact .performed (.cancel hpresents hc) hix
  | verifyFalconPrepared => rw [Processor.harness_frame rfl h]; exact .harness hix rfl
  | verifyFalconRaw => rw [Processor.harness_frame rfl h]; exact .harness hix rfl
  | verifyCanonicalDigest => rw [Processor.harness_frame rfl h]; exact .harness hix rfl
  | reconstructCanonicalDigest => rw [Processor.harness_frame rfl h]; exact .harness hix rfl

end DualKey
