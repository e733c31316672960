import DualKey.System.Replay

/-!
# Two keys or nothing

Under `hybridAnd` with the recovery flag clear, no run moves a vault with one of the two
schemes alone: unless some step offers both, the vault's data stay as they are, its
lamports never decrease and nothing is ever signed for it. What its recovery config
contains does not matter, since the guardian's instructions need the flag.

The step lemma is `Step.quiet_of_hybridAnd`. Its premises are facts about the vault
account alone, and a quiet step keeps that account, so the run lemma is the induction
`Run.vault_untouched`.
-/

namespace DualKey

open Transition

variable {P : Platform} {m m' : Machine} {v : Pubkey} {a : HybridAccount} {l : Label}

/-- A step that does not offer both schemes leaves a `hybridAnd` vault alone. -/
theorem Step.quiet_of_hybridAnd (hwf : WellFormed P m) (hv : VaultAt P m v a)
    (hpolicy : a.fields.policy = AuthorizationPolicy.hybridAnd.asU8)
    (hclear : a.fields.recovery = false) (h : Step P m l m')
    (hone : ¬ (OffersEd25519 P v ⟨m, l, m'⟩ ∧ OffersFalcon P v ⟨m, l, m'⟩)) :
    Quiet P m v l m' := by
  rcases h.vault_cases hwf hv with hquiet | ⟨op, hop⟩
  · exact hquiet
  · -- an operation would have been signed, and the requirement of `hybridAnd` is both schemes
    have hsigned : op.isSigned = true := hop.isSigned_of_clear hv.data hclear
    obtain ⟨policy, action, req, hpol, -, hreq, hsat⟩ := hop.signed hsigned hv.data
    have hand : policy = .hybridAnd := by
      rw [hpolicy, AuthorizationPolicy.fromU8_asU8] at hpol
      exact (Option.some.inj hpol).symm
    rw [hand, hclear] at hreq
    have hboth : req = .both := eq_both_of_hybridAnd hreq
    rw [hboth] at hsat
    exact absurd hsat hone

/-- A run whose steps all leave the vault alone, as far as they start with its account `a`,
ends with that account. -/
theorem Run.vault_untouched {tr : List (Edge Machine Label)} (hrun : Run (chain P) m tr m')
    (hwf : WellFormed P m) (hv : VaultAt P m v a)
    (hquiet : ∀ e ∈ tr, WellFormed P e.pre → VaultAt P e.pre v a →
      Step P e.pre e.label e.post → Quiet P e.pre v e.label e.post) :
    VaultAt P m' v a ∧ ∀ e ∈ tr, Quiet P e.pre v e.label e.post := by
  -- the account itself is the invariant of the run
  have hkeep : ∀ e ∈ tr, (chain P).step e.pre e.label e.post →
      WellFormed P e.pre ∧ VaultAt P e.pre v a → WellFormed P e.post ∧ VaultAt P e.post v a := by
    intro e he hstep hpre
    have hq := hquiet e he hpre.1 hpre.2 hstep
    exact ⟨Step.wellFormed hstep hpre.1, hq.owner, hq.data.trans hpre.2.data, hpre.2.version⟩
  have hinit : WellFormed P m ∧ VaultAt P m v a := ⟨hwf, hv⟩
  have hend : WellFormed P m' ∧ VaultAt P m' v a :=
    hrun.invariant (I := fun s => WellFormed P s ∧ VaultAt P s v a) hinit hkeep
  refine ⟨hend.2, ?_⟩
  intro e he
  have hstep := hrun.step he
  have hpre : WellFormed P e.pre ∧ VaultAt P e.pre v a :=
    (hrun.invariant_mem (I := fun s => WellFormed P s ∧ VaultAt P s v a) hinit hkeep e he).1
  exact hquiet e he hpre.1 hpre.2 hstep

/-- Lamports that no step decreases have not decreased over the run. -/
theorem Run.lamports_le {tr : List (Edge Machine Label)} (hrun : Run (chain P) m tr m')
    (hstep : ∀ e ∈ tr, e.pre.lamports v ≤ e.post.lamports v) : m.lamports v ≤ m'.lamports v := by
  have hle : Order.Preimage (fun s : Machine => (s.lamports v).toNat) (· ≤ ·) m m' := by
    refine hrun.relates ?_
    intro e he _
    exact UInt64.le_iff_toNat_le.mp (hstep e he)
  exact UInt64.le_iff_toNat_le.mpr hle

/-- **`hybridAnd` never falls to one scheme.** In every run from a reachable state in which
the vault at `v` has policy `hybridAnd` and a clear recovery flag, if one of the two schemes
is never offered, then the vault's data are unchanged at the end, no step decreases its
lamports, and no step makes an invocation signed for it. -/
theorem hybridAnd_needs_both {tr : List (Edge Machine Label)} (hreach : Reachable (chain P) m)
    (hrun : Run (chain P) m tr m') (hv : VaultAt P m v a)
    (hpolicy : a.fields.policy = AuthorizationPolicy.hybridAnd.asU8)
    (hclear : a.fields.recovery = false)
    (hone : (∀ e ∈ tr, ¬ OffersEd25519 P v e) ∨ ∀ e ∈ tr, ¬ OffersFalcon P v e) :
    m'.data v = m.data v ∧ m.lamports v ≤ m'.lamports v ∧
      (∀ e ∈ tr, e.pre.lamports v ≤ e.post.lamports v) ∧
      ∀ e ∈ tr, ∀ cpi ∈ e.post.cpis, ∀ seeds ∈ cpi.signers,
        P.createProgramAddress seeds P.programId ≠ some v := by
  have hwf : WellFormed P m := Reachable.wellFormed hreach
  obtain ⟨hv', hquiet⟩ := Run.vault_untouched hrun hwf hv (by
    intro e he hwf' hpre hstep
    refine hstep.quiet_of_hybridAnd hwf' hpre hpolicy hclear ?_
    intro hboth
    -- a step that moves the vault offers both schemes
    rcases hone with hone | hone
    · exact hone e he hboth.1
    · exact hone e he hboth.2)
  refine ⟨hv'.data.trans hv.data.symm, ?_, fun e he => (hquiet e he).lamports,
    fun e he => (hquiet e he).signers⟩
  exact Run.lamports_le hrun fun e he => (hquiet e he).lamports

open Sample in
/-- A `hybridAnd` vault keeps its data when a transfer signed with Ed25519 alone is submitted. -/
theorem hybridAnd_needs_both_replayed :
    (replayed platform hybridCreated [spendHybrid]).data hybridVault =
      hybridCreated.data hybridVault := by
  have hsettings : (recordOf platform hybridCreated hybridVault).map
      (fun r => (r.policy, r.recovery)) = some (.hybridAnd, false) := by
    decide +kernel
  obtain ⟨a, hv, hpolicy, hclear⟩ := exists_vaultAt_of_settings hsettings
  have hruntime : ∀ inv ∈ [spendHybrid], inv.PrecompilesAccepted platform := by decide +kernel
  have hrun := run_replay hybridCreated hruntime
  exact (hybridAnd_needs_both hybridCreated_reachable hrun hv
    (AuthorizationPolicy.eq_asU8 hpolicy) hclear (Or.inr fun _ _ => not_offersFalcon)).1

end DualKey
