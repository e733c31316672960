import DualKey.Properties.CancelWindow

/-!
# Recovery is opt-in

Four operations go around the policy of a vault: the recovery rotation, and the proposal
of a guardian with its execution and its cancellation. All four need the recovery flag,
a new vault has it clear, and `Enable` alone sets it. So behind every use there is an
`Enable` that the owner signed under the policy of that moment, and the flag has been set
ever since (`Run.exists_last_entry`).

The flag shares a byte with the threshold flag. That no other operation sets or clears it
is `VaultOp.onFields_recovery`.
-/

namespace DualKey

open Transition

variable {P : Platform} {m m' : Machine} {v : Pubkey} {l : Label} {op : VaultOp}

/-- The step is an `Enable` on the vault at `v` whose signatures satisfy the requirement of the
policy stored at that moment. -/
def EnabledUnderPolicy (P : Platform) (v : Pubkey) (e : Edge Machine Label) : Prop :=
  PerformsOn P e.pre v (.setRecovery true) e.label e.post ∧
  ∃ (a : HybridAccount) (policy : AuthorizationPolicy), e.pre.data v = a.data ∧
    AuthorizationPolicy.fromU8 a.fields.policy = some policy ∧
    (policy.signatureRequirement (.recoverAccount .enable (ByteVec.zero 32))
      a.fields.threshold).SatisfiedBy (OffersEd25519 P v e) (OffersFalcon P v e)

/-- Every `Enable` is signed under the policy of that moment. -/
theorem PerformsOn.enabledUnderPolicy {a : HybridAccount}
    (h : PerformsOn P m v (.setRecovery true) l m') (hdata : m.data v = a.data) :
    EnabledUnderPolicy P v ⟨m, l, m'⟩ := by
  obtain ⟨policy, action, req, hpolicy, hsigns, hreq, hsat⟩ := h.signed rfl hdata
  have haction : action = .recoverAccount .enable (ByteVec.zero 32) := hsigns
  subst haction
  refine ⟨h, a, policy, hdata, hpolicy, ?_⟩
  have hsame : policy.signatureRequirement _ a.fields.threshold = req := Except.ok.inj hreq
  rw [hsame]
  exact hsat

/-- An operation after which a clear flag is set is an `Enable`. -/
theorem VaultOp.eq_enable {f : HybridFields} (hclear : f.recovery = false)
    (hset : (op.onFields f).recovery = true) : op = .setRecovery true := by
  by_cases hrecovery : ∃ b, op = .setRecovery b
  · obtain ⟨b, rfl⟩ := hrecovery
    rw [VaultOp.onFields_setRecovery] at hset
    rw [hset]
  · push Not at hrecovery
    rw [VaultOp.onFields_recovery hrecovery, hclear] at hset
    exact absurd hset Bool.false_ne_true

/-- A step that enters the flag is an `Enable` signed under the policy. -/
theorem Step.enables (hwf : WellFormed P m) (h : Step P m l m') (hv : ∃ a, VaultAt P m v a)
    (hclear : ¬ FlagSet P v m) (hset : FlagSet P v m') : EnabledUnderPolicy P v ⟨m, l, m'⟩ := by
  obtain ⟨a, hva⟩ := hv
  obtain ⟨b, hvb, hb⟩ := hset
  have ha : a.fields.recovery = false := by
    by_contra hne
    exact hclear ⟨a, hva, Bool.not_eq_false _ ▸ hne⟩
  obtain ⟨a', hva', hstep⟩ := h.vaultAt hwf hva
  obtain rfl := hvb.unique hva'
  rcases hstep with ⟨-, rfl⟩ | ⟨op, hop, heffect⟩
  · exact absurd (ha.symm.trans hb) Bool.false_ne_true
  · rw [heffect.fields] at hb
    obtain rfl := VaultOp.eq_enable ha hb
    exact hop.enabledUnderPolicy hva.data

/-- A step that disables recovery leaves the flag clear. -/
theorem PerformsOn.flag_of_disable (hwf : WellFormed P m)
    (h : PerformsOn P m v (.setRecovery false) l m') : ¬ FlagSet P v m' := by
  rintro ⟨b, hvb, hset⟩
  obtain ⟨a, a', heffect, -, hva'⟩ := h.effect hwf
  obtain rfl := hvb.unique hva'
  rw [heffect.fields, VaultOp.onFields_setRecovery] at hset
  exact Bool.false_ne_true hset

/-- **Recovery is opt-in.** In every run that starts with the `Initialize` of the vault at `v`,
each recovery rotation, proposal, execution and cancellation on the vault is preceded by an
`Enable` on it whose signatures satisfied the requirement of the policy in force at that moment,
and no step in between disables recovery; and a step that neither enables nor disables recovery
of the vault leaves its flag as it was. -/
theorem recovery_opt_in {m₀ : Machine} {tr : List (Edge Machine Label)}
    (hreach : Reachable (chain P) m₀) (hinit : Step P m₀ l m)
    (hcall : l.call = some (.initializeAccount, v)) (hrun : Run (chain P) m tr m') :
    (∀ (before after : List (Edge Machine Label)) (e : Edge Machine Label) (op : VaultOp),
      tr = before ++ e :: after → PerformsOn P e.pre v op e.label e.post →
      op.usesRecovery = true →
      ∃ (earlier between : List (Edge Machine Label)) (i : Edge Machine Label),
        before = earlier ++ i :: between ∧ EnabledUnderPolicy P v i ∧
        ∀ j ∈ between, ¬ PerformsOn P j.pre v (.setRecovery false) j.label j.post) ∧
    ∀ e ∈ tr, (∀ b, ¬ PerformsOn P e.pre v (.setRecovery b) e.label e.post) →
      ∃ a a', VaultAt P e.pre v a ∧ VaultAt P e.post v a' ∧
        a'.fields.recovery = a.fields.recovery := by
  have hwf : WellFormed P m := hinit.wellFormed (Reachable.wellFormed hreach)
  obtain ⟨inv, args, bump, prepared, a₀, -, -, -, hva₀, hfields⟩ := hinit.initialized hcall
  have hinv : ∀ e ∈ tr, IsVault P e.pre v ∧ IsVault P e.post v :=
    hrun.invariant_mem (I := fun s => IsVault P s v) ⟨hwf, a₀, hva₀⟩ fun _ _ h => Step.isVault h
  refine ⟨?_, ?_⟩
  · intro before after e op htr hop huses
    subst htr
    obtain ⟨hrun₁, -, -⟩ := Run.cons_middle_iff.mp hrun
    -- a new vault has the flag clear, and the step that uses recovery finds it set
    have hclear : ¬ FlagSet P v m := by
      rintro ⟨b, hvb, hset⟩
      obtain rfl := hvb.unique hva₀
      rw [hfields, HybridAccount.recovery_freshFields] at hset
      exact Bool.false_ne_true hset
    have hset : FlagSet P v e.pre := by
      obtain ⟨hwf₁, b, hvb⟩ := (hinv e (List.mem_append_right _ List.mem_cons_self)).1
      exact ⟨b, hvb, hop.enabled huses hvb.data⟩
    -- the last step that sets the flag; from there on it stays set
    obtain ⟨earlier, i, between, rfl, hbefore, hafter, hsince⟩ :=
      hrun₁.exists_last_entry (Q := FlagSet P v) hclear hset
    obtain ⟨-, hstep, -⟩ := Run.cons_middle_iff.mp hrun₁
    have hmem : i ∈ earlier ++ i :: between := List.mem_append_right _ List.mem_cons_self
    obtain ⟨hwf₁, hv₁⟩ := (hinv i (List.mem_append_left _ hmem)).1
    refine ⟨earlier, between, i, rfl, Step.enables hwf₁ hstep hv₁ hbefore hafter, ?_⟩
    intro j hj hdisable
    have hmem' : j ∈ earlier ++ i :: between :=
      List.mem_append_right _ (List.mem_cons_of_mem _ hj)
    obtain ⟨hwf₂, -⟩ := (hinv j (List.mem_append_left _ hmem')).1
    exact hdisable.flag_of_disable hwf₂ (hsince j hj).2
  · intro e he hno
    have hstep := hrun.step he
    obtain ⟨hwf₁, a, hva⟩ := (hinv e he).1
    obtain ⟨a', hva', hcases⟩ := Step.vaultAt hwf₁ hva hstep
    refine ⟨a, a', hva, hva', ?_⟩
    -- no operation writes the flag but the two excluded
    rcases hcases with ⟨-, rfl⟩ | ⟨op, hop, heffect⟩
    · rfl
    · rw [heffect.fields]
      refine VaultOp.onFields_recovery ?_
      rintro b rfl
      exact hno b hop

section Replay

open Sample

/-- The guardian's proposal comes after the owner has enabled recovery. -/
theorem recovery_opt_in_replayed :
    ∃ i ∈ replay platform ed25519Created [setConfig, enable],
      EnabledUnderPolicy platform ed25519Vault i := by
  have hruntime : ∀ inv ∈ [setConfig, enable], inv.PrecompilesAccepted platform := by
    decide +kernel
  have hlast : propose.PrecompilesAccepted platform := by decide +kernel
  have hrun := run_replay_submit ed25519Created hruntime hlast
  have hstep := submit_step (replayed platform ed25519Created [setConfig, enable]) hlast
  have hcall : (submit platform (replayed platform ed25519Created [setConfig, enable])
      propose).label.call = some (.initiateSocialRecovery, ed25519Vault) := by
    decide +kernel
  rw [submit_eq] at hrun
  generalize submit platform (replayed platform ed25519Created [setConfig, enable]) propose = e
    at hrun hstep hcall
  generalize replayed platform ed25519Created [setConfig, enable] = s at hrun hstep
  obtain ⟨op, hop, hix⟩ := hstep.performsOn_of_call hcall (by decide)
  have huses : op.usesRecovery = true := by
    cases op <;> first | rfl | cases hix
  obtain ⟨earlier, between, i, htr, henabled, -⟩ := (recovery_opt_in
    (Reachable.of_init genesis_init) createEd25519Vault_step createEd25519Vault_call hrun).1
      _ [] ⟨s, e.label, e.post⟩ op rfl hop huses
  refine ⟨i, ?_, henabled⟩
  rw [htr]
  exact List.mem_append_right _ List.mem_cons_self

end Replay

end DualKey
