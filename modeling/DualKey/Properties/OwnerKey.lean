import DualKey.Properties.NonceAccounting

/-!
# The zero key as owner

The all-zero key stands for "none": no pending proposal, no guardian, an unused action
body. Three operations install an owner. A recovery rotation refuses the zero key; a
finalization installs what was pending, and a pending key is not zero; `RotateEd25519Key`
compares the new key with the current one and with nothing else.

So a vault created with an owner other than zero keeps one exactly as long as no
`RotateEd25519Key` signed for the zero key succeeds on it (`owner_nonzero_iff`). One such
intent is enough to break it (`zero_owner_installed`).
-/

namespace DualKey

open Transition

/-- The owner an operation installs. -/
def VaultOp.newOwner : VaultOp → Option Pubkey
  | rotateEd25519 k => some k
  | recoverEd25519 k => some k
  | finalize k => some k
  | _ => none

/-- The owner of the vault at `v` is not the zero key. -/
def OwnerNonzero (P : Platform) (v : Pubkey) (m : Machine) : Prop :=
  VaultFields P v (fun f => f.ownerEd25519 ≠ ByteVec.zero 32) m

/-- The step is a successful `RotateEd25519Key` on the vault at `v` that presents the zero
key. -/
def RotatesToZero (v : Pubkey) (l : Label) : Prop :=
  ∃ (inv : Invocation) (wire : ExecuteIntentWire) (falconSig : List UInt8),
    l = .executed inv ∧ inv.call = some (.rotateEd25519Key, v) ∧
      Presents inv.payload wire falconSig ∧
      wire.action = .rotateEd25519Key (ByteVec.zero 32)

variable {P : Platform} {m m' : Machine} {v : Pubkey} {l : Label} {op : VaultOp}

theorem VaultOp.onFields_newOwner (op : VaultOp) (f : HybridFields) :
    (op.onFields f).ownerEd25519 = op.newOwner.getD f.ownerEd25519 := by
  cases op <;> rfl

/-- The zero key is installed by `RotateEd25519Key` or not at all. -/
theorem PerformsOn.newOwner_nonzero {k : Pubkey} (h : PerformsOn P m v op l m')
    (hk : op.newOwner = some k) (hne : op ≠ .rotateEd25519 (ByteVec.zero 32)) :
    k ≠ ByteVec.zero 32 := by
  cases h with
  | @mk inv vault m' hruntime hkey hix h =>
    cases h with
    | @rotateEd25519 config sysvar wire falconSig newPubkey a auth _ hpresents hc hclears =>
      -- this handler does not compare the new key with zero
      obtain rfl : newPubkey = k := Option.some.inj hk
      rintro rfl
      exact hne rfl
    | @recoverEd25519 config sysvar wire falconSig newEd25519 a auth _ hpresents hc hclears =>
      -- `RecoverAccount` checks the key
      obtain rfl : newEd25519 = k := Option.some.inj hk
      exact hc.nonzero
    | @finalize config pending ready next a c hc =>
      -- the pending key is what the proposal stored, and zero would mean that none is pending
      obtain rfl : pending = k := Option.some.inj hk
      exact (RecoveryFields.pending_eq_some.mp hc.pending).2.2
    | _ => cases hk

/-- Which operation a presented zero key leads to. -/
theorem PerformsOn.rotatesToZero_iff (h : PerformsOn P m v op l m') :
    RotatesToZero v l ↔ op = .rotateEd25519 (ByteVec.zero 32) := by
  have hcall := h.call
  cases h with
  | @mk inv vault m' hruntime hkey hix h =>
    constructor
    · rintro ⟨inv', wire, falconSig, hlabel, hcall', hpresents, haction⟩
      obtain rfl := Label.executed.inj hlabel
      have hop : op.instruction = .rotateEd25519Key :=
        congrArg Prod.fst (Option.some.inj (hcall.symm.trans hcall'))
      cases h with
      | @rotateEd25519 config sysvar wire' falconSig' newPubkey a auth _ hpresents' hc hclears =>
        -- the payload parses to one wire, so the handler saw the same key
        have hwire : wire' = wire := Except.ok.inj (hpresents'.wire.symm.trans hpresents.wire)
        have hsame : Action.rotateEd25519Key newPubkey = .rotateEd25519Key (ByteVec.zero 32) := by
          rw [← hc.action, hwire, haction]
        rw [Action.rotateEd25519Key.inj hsame]
      | _ => cases hop
    · rintro rfl
      cases h with
      | @rotateEd25519 config sysvar wire falconSig newPubkey a auth _ hpresents hc hclears =>
        exact ⟨inv, wire, falconSig, rfl, hcall, hpresents, hc.action⟩

/-- An operation other than a rotation to zero keeps the owner from being zero. -/
theorem PerformsOn.owner_nonzero {f : HybridFields} (h : PerformsOn P m v op l m')
    (hno : ¬ RotatesToZero v l) (hf : f.ownerEd25519 ≠ ByteVec.zero 32) :
    (op.onFields f).ownerEd25519 ≠ ByteVec.zero 32 := by
  rw [VaultOp.onFields_newOwner]
  cases hk : op.newOwner with
  | none => exact hf
  | some k => exact h.newOwner_nonzero hk fun hop => hno (h.rotatesToZero_iff.mpr hop)

/-- After a rotation to zero the owner is zero. -/
theorem Step.owner_of_rotatesToZero (hwf : WellFormed P m) (h : Step P m l m')
    (hzero : RotatesToZero v l) : ¬ OwnerNonzero P v m' := by
  obtain ⟨inv, wire, falconSig, rfl, hcall, hpresents, haction⟩ := id hzero
  obtain ⟨op, hop, -⟩ := h.performsOn_of_call hcall (by decide)
  obtain rfl := hop.rotatesToZero_iff.mp hzero
  obtain ⟨a, a', heffect, -, hva'⟩ := hop.effect hwf
  rintro ⟨b, hvb, hne⟩
  obtain rfl := hva'.unique hvb
  rw [heffect.fields] at hne
  exact hne rfl

/-- **When the owner is never the zero key.** In every run that starts with an `Initialize` of
the vault at `v` whose `owner_ed25519` is not zero, the owner is not zero after the `Initialize`;
and it is not zero in any later state exactly when no step of the run is a successful
`RotateEd25519Key` on the vault that presents the zero key. -/
theorem owner_nonzero_iff {m₀ : Machine} {tr : List (Edge Machine Label)} {inv : Invocation}
    {args : Initialize.Args} (hreach : Reachable (chain P) m₀) (hinit : Step P m₀ (.executed inv) m)
    (hcall : inv.call = some (.initializeAccount, v))
    (hargs : Initialize.parse inv.payload = .ok args)
    (howner : args.ownerEd25519 ≠ ByteVec.zero 32) (hrun : Run (chain P) m tr m') :
    OwnerNonzero P v m ∧
      ((∀ e ∈ tr, OwnerNonzero P v e.post) ↔ ∀ e ∈ tr, ¬ RotatesToZero v e.label) := by
  have hwf₀ : WellFormed P m₀ := Reachable.wellFormed hreach
  have hwf : WellFormed P m := hinit.wellFormed hwf₀
  have hstart : OwnerNonzero P v m := by
    obtain ⟨inv', args', bump, prepared, a, hlabel, hparse, -, hva, hfields⟩ :=
      hinit.initialized hcall
    obtain rfl := Label.executed.inj hlabel
    obtain rfl := Except.ok.inj (hparse.symm.trans hargs)
    refine ⟨a, hva, ?_⟩
    rw [hfields]
    exact howner
  refine ⟨hstart, ?_, ?_⟩
  · intro hnonzero e he hzero
    obtain ⟨tr₁, tr₂, rfl, hrun₁, hstep, -⟩ := hrun.mem he
    have hwf₁ : WellFormed P e.pre := Run.wellFormed hwf hrun₁
    exact Step.owner_of_rotatesToZero hwf₁ hstep hzero (hnonzero e he)
  · intro hno e he
    -- no operation of the run installs zero, so nonzero is an invariant of it
    have hall := Run.vaultFields (I := fun f => f.ownerEd25519 ≠ ByteVec.zero 32) hwf hrun
      (fun e he a op _ hop => hop.owner_nonzero (hno e he)) hstart
    exact (hall.2 e he).2

section Replay

open Sample

/-- A finalized proposal replaces the owner by a key other than zero. -/
theorem owner_nonzero_replayed :
    OwnerNonzero platform ed25519Vault ed25519Created ∧
      ∀ e ∈ replay platform ed25519Created [setConfig, enable, propose, finalize],
        OwnerNonzero platform ed25519Vault e.post := by
  have hruntime : ∀ inv ∈ [setConfig, enable, propose, finalize],
      inv.PrecompilesAccepted platform := by
    decide +kernel
  have hother : ∀ e ∈ replay platform ed25519Created [setConfig, enable, propose, finalize],
      e.label.call ≠ some (.rotateEd25519Key, ed25519Vault) := by
    decide +kernel
  obtain ⟨hstart, hkeep⟩ := owner_nonzero_iff (Reachable.of_init genesis_init)
    createEd25519Vault_step createEd25519Vault_call parse_createEd25519Vault (by decide +kernel)
    (run_replay ed25519Created hruntime)
  refine ⟨hstart, hkeep.mpr ?_⟩
  rintro e he ⟨inv, wire, falconSig, hlabel, hrotates, -⟩
  refine hother e he ?_
  rw [hlabel]
  exact hrotates

/-- **The zero key as owner.** The first intent of a new vault rotates its owner to the zero key,
and the program installs it. -/
theorem zero_owner_installed :
    ¬ ∀ (P : Platform) (v : Pubkey) (m₀ m m' : Machine) (tr : List (Edge Machine Label))
      (inv : Invocation) (args : Initialize.Args), Reachable (chain P) m₀ →
      Step P m₀ (.executed inv) m → inv.call = some (.initializeAccount, v) →
      Initialize.parse inv.payload = .ok args → args.ownerEd25519 ≠ ByteVec.zero 32 →
      Run (chain P) m tr m' → OwnerNonzero P v m' := by
  intro hclaim
  have hruntime : ∀ inv ∈ [rotateToZero], inv.PrecompilesAccepted platform := by decide +kernel
  obtain ⟨a, hva, hnonzero⟩ := hclaim platform ed25519Vault genesis ed25519Created _ _
    createEd25519Vault _ (Reachable.of_init genesis_init) createEd25519Vault_step
    createEd25519Vault_call parse_createEd25519Vault (by decide +kernel)
    (run_replay ed25519Created hruntime)
  -- the record of the vault shows the zero key
  have hrecord : (recordOf platform (replayed platform ed25519Created [rotateToZero])
      ed25519Vault).map VaultRecord.owner = some (ByteVec.zero 32) := by
    decide +kernel
  obtain ⟨r, hr, howner⟩ := Option.map_eq_some_iff.mp hrecord
  obtain ⟨b, policy, hvb, -, rfl⟩ := exists_vaultAt_of_recordOf hr
  obtain rfl := hva.unique hvb
  exact hnonzero howner

end Replay

end DualKey
