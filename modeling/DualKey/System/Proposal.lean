import DualKey.System.Authority

/-!
# The life of a guardian's proposal

A proposal is made by `InitiateSocialRecovery` and consumed by `FinalizeSocialRecovery`,
two steps of a run that may be arbitrarily far apart. `Proposes` and `Finalizes` are what
the two steps have checked, read off the guardianship of the vault.

`Run.exists_proposal` connects them. The chain starts without any proposal, so a pending
one was entered by some last step and has stayed the same ever since
(`Run.exists_last_entry`). Only one kind of step enters it, and none of the operations
that write the recovery config can have happened since: each of them leaves no proposal
pending, except a proposal, which needs none to be pending.
-/

namespace DualKey

open Transition

variable (P : Platform)

/-- What a successful proposal of `k` has checked in the state it starts in. -/
structure Proposes (v k : Pubkey) (g : Pubkey) (d ready : UInt64) (m : Machine) (inv : Invocation)
    (a : HybridAccount) : Prop where
  data : m.data v = a.data
  enabled : a.fields.recovery = true
  idle : guardianshipOf P m v = some { guardian := g, delay := d, pending := none }
  /-- The guardian has signed for this key at the vault's nonce. -/
  approved : Ed25519Presented P inv g (SocialRecovery.socialDigest P v k a.fields.nonce).toList
  ready : inv.slot.toNat + d.toNat = ready.toNat

/-- What the execution of a proposal of `k` has checked in the state it starts in. -/
structure Finalizes (v k : Pubkey) (g : Pubkey) (d ready : UInt64) (m : Machine) (inv : Invocation)
    (a : HybridAccount) : Prop where
  data : m.data v = a.data
  enabled : a.fields.recovery = true
  pending : guardianshipOf P m v = some { guardian := g, delay := d, pending := some (k, ready) }
  elapsed : ready ≤ inv.slot

variable {P} {m m' : Machine} {v k g : Pubkey} {d ready : UInt64} {l : Label} {op : VaultOp}

/-! ### The two steps -/

theorem PerformsOn.proposes (h : PerformsOn P m v (.initiate k ready) l m') :
    ∃ g d inv a, l = .executed inv ∧ Proposes P v k g d ready m inv a := by
  cases h with
  | @mk inv vault m' hruntime hkey hix h =>
    subst hkey
    cases h with
    | @initiate config sysvar _ _ a c hpayload hc =>
      obtain ⟨bump, haddress⟩ := hc.address
      refine ⟨c.fields.guardianEd25519, c.fields.delaySlots, inv, a, rfl, ?_⟩
      have hguardianship := guardianshipOf_config haddress hc.configOwner hc.configData
      exact
        { data := hc.vaultData
          enabled := hc.enabled
          idle := by rw [← hc.idle]; exact hguardianship
          approved := verifyEd25519Precompile_sound hruntime hc.approved
          ready := hc.ready }

theorem PerformsOn.finalizes (h : PerformsOn P m v (.finalize k) l m') :
    ∃ g d ready inv a, l = .executed inv ∧ Finalizes P v k g d ready m inv a := by
  cases h with
  | @mk inv vault m' hruntime hkey hix h =>
    subst hkey
    cases h with
    | @finalize config _ ready next a c hc =>
      obtain ⟨bump, haddress⟩ := hc.address
      refine ⟨c.fields.guardianEd25519, c.fields.delaySlots, ready, inv, a, rfl, ?_⟩
      have hguardianship := guardianshipOf_config haddress hc.configOwner hc.configData
      exact
        { data := hc.vaultData
          enabled := hc.enabled
          pending := by rw [← hc.pending]; exact hguardianship
          elapsed := hc.elapsed }

/-! ### What can happen to a pending proposal -/

/-- Before the program was deployed there is no guardianship. -/
theorem Genesis.guardianship (h : Genesis P m) : guardianshipOf P m v = none := by
  rw [Option.eq_none_iff_forall_ne_some]
  intro g hg
  obtain ⟨c, hc, -⟩ := guardianshipOf_eq_some.mp hg
  obtain ⟨k, bump, -, howner, -⟩ := recoveryConfigOf_eq_some.mp hc
  exact h.notOurs k howner

/-- The stored delay is at least one slot. -/
theorem WellFormed.delay (hwf : WellFormed P m) {gd : Guardianship}
    (h : guardianshipOf P m v = some gd) : 1 ≤ gd.delay := by
  obtain ⟨c, hc, rfl⟩ := guardianshipOf_eq_some.mp h
  obtain ⟨k, bump, -, howner, hdata⟩ := recoveryConfigOf_eq_some.mp hc
  exact (hwf.config howner hdata).2

/-- **What one step does to a pending proposal.** When a proposal is pending after a step, the
guardianship was the same before and the step performed no operation that writes the recovery
config, or the step is this very proposal. -/
theorem Step.pending_cases (hown : OwnRecoveryAddress P v) (hwf : WellFormed P m)
    (h : Step P m l m')
    (hpost : guardianshipOf P m' v =
      some { guardian := g, delay := d, pending := some (k, ready) }) :
    guardianshipOf P m v = guardianshipOf P m' v ∨ PerformsOn P m v (.initiate k ready) l m' ∧
      guardianshipOf P m v = some { guardian := g, delay := d, pending := none } := by
  rcases h.config_cases hown hwf with hsame | ⟨op, hop⟩
  · left
    rw [guardianshipOf, guardianshipOf, hsame]
  · -- an operation on the vault acts on its guardianship as specified
    have hafter : op.onGuardianship (guardianshipOf P m v) =
        some { guardian := g, delay := d, pending := some (k, ready) } :=
      hop.guardianship.symm.trans hpost
    rcases VaultOp.onGuardianship_pending hafter with hno | ⟨rfl, pending, hbefore⟩
    · left
      rw [hop.guardianship, VaultOp.onGuardianship_of_not_touches hno]
    · -- a proposal is refused while another one is pending
      right
      obtain ⟨g', d', inv, a, -, hproposes⟩ := hop.proposes
      have hidle := hproposes.idle
      rw [hbefore] at hidle
      have hfields := Option.some.inj hidle
      rw [Guardianship.mk.injEq] at hfields
      obtain ⟨-, -, hnone⟩ := hfields
      rw [hbefore, hnone]
      exact ⟨hop, rfl⟩

/-- While a proposal stays pending, no operation that writes the recovery config is
performed. -/
theorem PerformsOn.not_touches (h : PerformsOn P m v op l m')
    (hpre : guardianshipOf P m v = some { guardian := g, delay := d, pending := some (k, ready) })
    (hpost : guardianshipOf P m' v =
      some { guardian := g, delay := d, pending := some (k, ready) }) :
    op.touchesConfig = false := by
  have hafter := h.guardianship.symm.trans hpost
  rcases VaultOp.onGuardianship_pending hafter with hno | ⟨rfl, -, -⟩
  · exact hno
  · obtain ⟨g', d', inv, a, -, hproposes⟩ := h.proposes
    have hidle := hproposes.idle
    rw [hpre] at hidle
    cases hidle

/-- **Where a pending proposal comes from.** In a run from the deployment of the program, a
proposal pending at the end was made by a step of the run, and has been pending ever since,
under the same guardian and delay, without any operation that writes the recovery config. -/
theorem Run.exists_proposal {m₀ : Machine} {tr : List (Edge Machine Label)}
    (hown : OwnRecoveryAddress P v) (hinit : Genesis P m₀) (hrun : Run (chain P) m₀ tr m)
    (hpending : guardianshipOf P m v =
      some { guardian := g, delay := d, pending := some (k, ready) }) :
    ∃ tr₁ e tr₂, tr = tr₁ ++ e :: tr₂ ∧
      PerformsOn P e.pre v (.initiate k ready) e.label e.post ∧
      guardianshipOf P e.pre v = some { guardian := g, delay := d, pending := none } ∧
      ∀ e' ∈ tr₂,
        guardianshipOf P e'.pre v =
          some { guardian := g, delay := d, pending := some (k, ready) } ∧
        guardianshipOf P e'.post v =
          some { guardian := g, delay := d, pending := some (k, ready) } ∧
        ∀ op, PerformsOn P e'.pre v op e'.label e'.post → op.touchesConfig = false := by
  -- nothing is pending at the deployment, so some step is the last to make it pending
  have hstart : ¬ guardianshipOf P m₀ v =
      some { guardian := g, delay := d, pending := some (k, ready) } := by
    rw [hinit.guardianship]
    exact fun h => by cases h
  obtain ⟨tr₁, e, tr₂, rfl, hbefore, hafter, hsince⟩ := hrun.exists_last_entry
    (Q := fun s => guardianshipOf P s v =
      some { guardian := g, delay := d, pending := some (k, ready) }) hstart hpending
  obtain ⟨hrun₁, hstep, -⟩ := Run.cons_middle_iff.mp hrun
  have hwf : WellFormed P e.pre := Reachable.wellFormed ⟨m₀, tr₁, hinit, hrun₁⟩
  refine ⟨tr₁, e, tr₂, rfl, ?_⟩
  -- the entering step is the proposal: any other would have found it pending
  rcases Step.pending_cases hown hwf hstep hafter with hsame | ⟨hproposal, hidle⟩
  · exact absurd (hsame.trans hafter) hbefore
  · refine ⟨hproposal, hidle, ?_⟩
    intro e' he'
    obtain ⟨hpre, hpost⟩ := hsince e' he'
    exact ⟨hpre, hpost, fun op hop => hop.not_touches hpre hpost⟩

/-! ### The vault meanwhile -/

/-- Operations that leave the recovery config alone replace no owner. -/
theorem VaultOp.changesOwner_of_not_touches (h : op.touchesConfig = false) :
    op.changesOwner = false := by
  cases op <;> first | rfl | cases h

/-- The vault at `v` has owner `o`. -/
def OwnedBy (P : Platform) (v o : Pubkey) (m : Machine) : Prop :=
  ∃ a, VaultAt P m v a ∧ a.fields.ownerEd25519 = o

end DualKey
