import DualKey.System.Proposal
import DualKey.System.Replay

/-!
# The social-recovery timelock

An owner that a guardian installs has waited. In every run from the deployment of the
program, a successful `FinalizeSocialRecovery` is preceded by the `InitiateSocialRecovery`
that proposed the very key it installs, approved by the guardian stored at that moment over
the vault's nonce at that moment, and the slot of the finalization is at least the slot of
the proposal plus the stored delay. In between neither the guardianship nor the owner of
the vault has changed, so no order of instructions can shorten, extend or redirect a
pending proposal.

The history of the proposal is `Run.exists_proposal`. What is added here is the owner: it
is kept by every step that performs none of the operations excluded there.
-/

namespace DualKey

open Transition

variable {P : Platform} {m m' : Machine} {v : Pubkey}

/-- The owner is kept by a run without operations that write the recovery config. -/
theorem Run.ownedBy {o : Pubkey} {tr : List (Edge Machine Label)} (hwf : WellFormed P m)
    (hrun : Run (chain P) m tr m') (ho : OwnedBy P v o m)
    (hno : ∀ e ∈ tr, ∀ op, PerformsOn P e.pre v op e.label e.post → op.touchesConfig = false) :
    OwnedBy P v o m' ∧ ∀ e ∈ tr, OwnedBy P v o e.pre ∧ OwnedBy P v o e.post := by
  refine Run.vaultFields (I := fun f => f.ownerEd25519 = o) hwf hrun ?_ ho
  intro e he a op hva hop howner
  have hsame : op.changesOwner = false := VaultOp.changesOwner_of_not_touches (hno e he op hop)
  rw [VaultOp.onFields_ownerEd25519 hsame, howner]

/-- **Timelock and provenance.** In every run from the deployment of the program that ends with
a successful `FinalizeSocialRecovery` on the vault at `v`, whose recovery address is no other
vault's, the finalization installs a key `k` that an earlier step `i` of the run proposed under
the approval of the stored guardian `g`; the stored delay `d` is at least one slot, the ready
slot did not overflow and has been reached; and throughout the steps in between the
guardianship and the owner are unchanged and no operation that writes the recovery config is
performed. -/
theorem finalize_waits {m₀ : Machine} {tr : List (Edge Machine Label)} {e : Edge Machine Label}
    (hown : OwnRecoveryAddress P v) (hinit : Genesis P m₀)
    (hrun : Run (chain P) m₀ (tr ++ [e]) m')
    (hcall : e.label.call = some (.finalizeSocialRecovery, v)) :
    ∃ (k g o : Pubkey) (d ready : UInt64) (before between : List (Edge Machine Label))
      (i : Edge Machine Label) (proposal finalization : Invocation) (a b : HybridAccount),
      -- the proposal, the steps in between and the finalization
      tr = before ++ i :: between ∧
      i.label = .executed proposal ∧ i.label.call = some (.initiateSocialRecovery, v) ∧
      PerformsOn P i.pre v (.initiate k ready) i.label i.post ∧
      Proposes P v k g d ready i.pre proposal a ∧
      e.label = .executed finalization ∧ PerformsOn P e.pre v (.finalize k) e.label e.post ∧
      Finalizes P v k g d ready e.pre finalization b ∧ OwnedBy P v k e.post ∧
      -- the delay
      1 ≤ d ∧ proposal.slot.toNat + d.toNat = ready.toNat ∧
      proposal.slot.toNat + d.toNat ≤ finalization.slot.toNat ∧
      -- the guardianship, the owner and the operations meanwhile
      OwnedBy P v o i.post ∧ OwnedBy P v o e.pre ∧
      ∀ j ∈ between,
        guardianshipOf P j.pre v =
          some { guardian := g, delay := d, pending := some (k, ready) } ∧
        guardianshipOf P j.post v =
          some { guardian := g, delay := d, pending := some (k, ready) } ∧
        OwnedBy P v o j.pre ∧ OwnedBy P v o j.post ∧
        ∀ op, PerformsOn P j.pre v op j.label j.post → op.touchesConfig = false := by
  obtain ⟨hrun₁, hfinal, -⟩ := Run.cons_middle_iff.mp hrun
  have hwf : WellFormed P e.pre := Reachable.wellFormed ⟨m₀, tr, hinit, hrun₁⟩
  -- the finalization
  obtain ⟨op, hop, hix⟩ := Step.performsOn_of_call hfinal hcall (by decide)
  obtain ⟨k, rfl⟩ : ∃ k, op = .finalize k := by
    cases op with
    | finalize k => exact ⟨k, rfl⟩
    | _ => cases hix
  obtain ⟨g, d, ready, finalization, b, hlabel, hfinalizes⟩ := hop.finalizes
  obtain ⟨_, b', heffect, -, hb'⟩ := hop.effect hwf
  have hinstalled : OwnedBy P v k e.post := ⟨b', hb', by rw [heffect.fields]; rfl⟩
  -- the proposal it consumes
  obtain ⟨before, i, between, rfl, hproposal, hidle, hsince⟩ :=
    Run.exists_proposal hown hinit hrun₁ hfinalizes.pending
  obtain ⟨g', d', proposal, a, hlabel', hproposes⟩ := hproposal.proposes
  have hsame := Option.some.inj (hproposes.idle.symm.trans hidle)
  rw [Guardianship.mk.injEq] at hsame
  obtain ⟨rfl, rfl, -⟩ := hsame
  -- the vault in between
  obtain ⟨hrun₂, hstep, hrun₃⟩ := Run.cons_middle_iff.mp hrun₁
  have hwf₂ : WellFormed P i.pre := Reachable.wellFormed ⟨m₀, before, hinit, hrun₂⟩
  obtain ⟨_, a', -, -, ha'⟩ := hproposal.effect hwf₂
  obtain ⟨howned, hmeanwhile⟩ := Run.ownedBy (o := a'.fields.ownerEd25519)
    (Step.wellFormed hstep hwf₂) hrun₃ ⟨a', ha', rfl⟩ fun j hj => (hsince j hj).2.2
  have hdelay : 1 ≤ d' := hwf₂.delay hidle
  have hready : proposal.slot.toNat + d'.toNat = ready.toNat := hproposes.ready
  have hwaited : proposal.slot.toNat + d'.toNat ≤ finalization.slot.toNat :=
    calc proposal.slot.toNat + d'.toNat
        = ready.toNat := hready
      _ ≤ finalization.slot.toNat := UInt64.le_iff_toNat_le.mp hfinalizes.elapsed
  refine ⟨k, g', a'.fields.ownerEd25519, d', ready, before, between, i, proposal, finalization, a,
    b, rfl, hlabel', hproposal.call, hproposal, hproposes, hlabel, hop, hfinalizes, hinstalled,
    hdelay, hready, hwaited, ⟨a', ha', rfl⟩, howned, ?_⟩
  intro j hj
  obtain ⟨hpre, hpost, hno⟩ := hsince j hj
  exact ⟨hpre, hpost, (hmeanwhile j hj).1, (hmeanwhile j hj).2, hno⟩

open Sample in
/-- The successor that owns the vault in the end was proposed at least the delay before. -/
theorem finalize_waits_replayed :
    ∃ i ∈ replay platform genesis [createEd25519Vault, setConfig, enable, propose],
      ∃ k ready, PerformsOn platform i.pre ed25519Vault (.initiate k ready) i.label i.post ∧
        ready ≤ finalize.slot ∧
        OwnedBy platform ed25519Vault k (submit platform proposed finalize).post := by
  have hruntime : ∀ inv ∈ [createEd25519Vault, setConfig, enable, propose],
      inv.PrecompilesAccepted platform := by
    decide +kernel
  have hlast : finalize.PrecompilesAccepted platform := by decide +kernel
  have hrun := run_replay_submit genesis hruntime hlast
  have hcall : (submit platform proposed finalize).label.call =
      some (.finalizeSocialRecovery, ed25519Vault) := by
    decide +kernel
  obtain ⟨k, g, o, d, ready, before, between, i, proposal, finalization, a, b, htr, -, -,
    hproposal, -, hlabel, -, hfinalizes, howned, -⟩ :=
    finalize_waits own_recovery_address genesis_init hrun hcall
  have hsame : finalize = finalization :=
    Label.executed.inj ((submit_executed hcall).1.symm.trans hlabel)
  refine ⟨i, ?_, k, ready, hproposal, ?_, howned⟩
  · rw [htr]
    exact List.mem_append_right _ List.mem_cons_self
  · rw [hsame]
    exact hfinalizes.elapsed

end DualKey
