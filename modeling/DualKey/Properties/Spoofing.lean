import DualKey.Properties.NonceAccounting
import DualKey.System.Provenance

/-!
# Spoofed accounts

Most handlers take the vault they are given without deriving its address, and two of them do
not even look at its version. What they rely on is that nothing but a vault of the program
can pass for one. An account somebody has handed to the program is blank, the program
writes no blank account, and a blank account has neither a version nor the recovery flag.
Recovery configs are told from vaults by their length and are derived at every use.

So every account that an operation is performed on was created by `Initialize`, at the
canonical address of its creator and index.
-/

namespace DualKey

open Transition

/-- An account that somebody else has created for the program. -/
structure Spoofed (P : Platform) (m : Machine) (k : Pubkey) : Prop where
  owner : m.owner k = P.programId
  funded : m.lamports k ≠ 0
  blank : ∀ b ∈ m.data k, b = 0
  foreign : ¬ P.IsPda k

/-- The account in the recovery config position of an instruction that has one. -/
def Invocation.recoveryConfig (inv : Invocation) : Option Pubkey :=
  match inv.instruction, inv.accounts with
  | some .rotateEd25519Key, [_, config, _] => some config.key
  | some .recoverAccount, [_, config, _] => some config.key
  | some .setRecoveryConfig, [_, config, _, _, _] => some config.key
  | some .initiateSocialRecovery, [_, config, _] => some config.key
  | some .finalizeSocialRecovery, [_, config] => some config.key
  | some .cancelSocialRecovery, [_, config, _] => some config.key
  | _, _ => none

/-- The account a successful instruction, other than the harness, took for the vault. -/
def Label.hybridAccount (l : Label) : Option Pubkey := l.call.map Prod.snd

/-- The account a successful instruction took for the recovery config. -/
def Label.recoveryConfig : Label → Option Pubkey
  | .executed inv => inv.recoveryConfig
  | .rejected _ => none
  | .environment => none

variable {P : Platform} {inv : Invocation} {m m' : Machine} {v k : Pubkey} {vault : AccountInfo}
  {op : VaultOp} {l : Label}

/-! ### Account positions -/

/-- A harness instruction has no recovery config. -/
theorem recoveryConfig_of_harness {ix : DualKeyInstruction} (hix : inv.instruction = some ix)
    (hharness : ix.isVerificationHarness = true) : inv.recoveryConfig = none := by
  rw [Invocation.recoveryConfig, hix]
  cases ix <;> first | rfl | cases hharness

/-- What clears a pending proposal takes an empty account or a recovery config. -/
theorem SocialRecovery.ClearsPending.config_data {config : AccountInfo} {a : HybridAccount}
    (h : ClearsPending P (m.setData v a.data) config m') :
    m.data config.key = [] ∨ ∃ c : RecoveryConfig, m.data config.key = c.data := by
  have hne : config.key ≠ v := h.ne_vault
  cases h with
  | absent hnil =>
    rw [Machine.data_setData, if_neg hne] at hnil
    exact Or.inl hnil
  | @cleared c _ _ hdata =>
    rw [Machine.data_setData, if_neg hne] at hdata
    exact Or.inr ⟨c, hdata⟩

/-- The account in the recovery config position of an operation is at the recovery address of the
vault, and empty or a recovery config. -/
theorem Performs.config_position (h : Performs P inv m vault op m')
    (hix : inv.instruction = some op.instruction) (hk : inv.recoveryConfig = some k) :
    (∃ bump, SocialRecovery.IsRecoveryAddress P vault.key k bump) ∧
      (m.data k = [] ∨ ∃ c : RecoveryConfig, m.data k = c.data) := by
  rw [Invocation.recoveryConfig, hix] at hk
  cases h with
  -- no recovery config among the accounts
  | transferSol _ hc _ => cases hk
  | transferSpl _ hc _ => cases hk
  | rotateFalcon _ _ hc => cases hk
  | changePolicy _ hc => cases hk
  | setRecovery _ hc =>
    rw [hc.accounts] at hk
    cases hk
  | rotateEd25519 _ hc hclears =>
    rw [hc.accounts] at hk
    cases hk
    exact ⟨hc.address, hclears.config_data⟩
  | recoverEd25519 _ hc hclears =>
    rw [hc.accounts] at hk
    cases hk
    exact ⟨hc.address, hclears.config_data⟩
  | setConfig _ hc hstores =>
    obtain ⟨systemProgram, -, haccounts⟩ := hc.accounts
    rw [haccounts] at hk
    cases hk
    refine ⟨⟨_, hc.address⟩, ?_⟩
    -- a config is created at an empty address only
    cases hstores with
    | created hnil _ _ _ _ _ _ => exact Or.inl hnil
    | @updated c _ hdata _ => exact Or.inr ⟨c, hdata⟩
  | initiate _ hc =>
    rw [hc.accounts] at hk
    cases hk
    exact ⟨hc.address, Or.inr ⟨_, hc.configData⟩⟩
  | finalize hc =>
    rw [hc.accounts] at hk
    cases hk
    exact ⟨hc.address, Or.inr ⟨_, hc.configData⟩⟩
  | cancel _ hc =>
    rw [hc.accounts] at hk
    cases hk
    exact ⟨hc.address, Or.inr ⟨_, hc.configData⟩⟩

/-- **What a step takes for a vault**: the empty address of the vault it creates, or a vault. -/
theorem Step.hybrid_position (hprov : Provenance P m) (h : Step P m l m')
    (hk : l.hybridAccount = some k) :
    P.IsPda k ∧ (m.data k = [] ∨ ∃ a : HybridAccount, m.data k = a.data) := by
  rw [Label.hybridAccount, Option.map_eq_some_iff] at hk
  obtain ⟨⟨ix, k'⟩, hcall, rfl⟩ := hk
  by_cases hinit : ix = .initializeAccount
  · subst hinit
    obtain ⟨inv, creator, vault, args, bump, m₁, a, hs, -, hkey, -⟩ := h.created_cases hcall
    have hkey' : vault.key = k' := hkey
    subst hkey'
    exact ⟨hs.canonical.isPda, Or.inl hs.fresh⟩
  · -- every other instruction finds a vault, and vaults are at derived addresses
    obtain ⟨op, hop, -⟩ := h.performsOn_of_call hcall hinit
    obtain ⟨a, a', -, hva, -⟩ := hop.effect hprov.wellFormed
    exact ⟨(hprov.canonical hva).isPda, Or.inr ⟨a, hva.data⟩⟩

/-- **What a step takes for a recovery config**: the empty recovery address, or a config there. -/
theorem Step.config_position (h : Step P m l m') (hk : l.recoveryConfig = some k) :
    P.IsPda k ∧ (m.data k = [] ∨ ∃ c : RecoveryConfig, m.data k = c.data) := by
  cases h with
  | @executed m' inv hruntime h =>
    have hk' : inv.recoveryConfig = some k := hk
    have hout := process_outcome h
    cases hout with
    | harness hix hharness =>
      rw [recoveryConfig_of_harness hix hharness] at hk'
      cases hk'
    | created hix hs =>
      rw [Invocation.recoveryConfig, hix] at hk'
      cases hk'
    | performed hp hix =>
      obtain ⟨⟨bump, haddress⟩, hdata⟩ := hp.config_position hix hk'
      exact ⟨haddress.isPda, hdata⟩
  | rejected _ => cases hk
  | environment _ _ => cases hk

/-! ### Spoofed accounts over a run -/

/-- **A step leaves a spoofed account as it is.** -/
theorem Step.spoofed (hprov : Provenance P m) (h : Step P m l m') (hk : Spoofed P m k) :
    Spoofed P m' k := by
  have hprov' : Provenance P m' := h.provenance hprov
  have hkept : m'.owner k = P.programId ∧ m'.lamports k ≠ 0 := by
    cases h with
    | executed _ h =>
      have hout := process_outcome h
      cases hout with
      | harness _ _ => exact ⟨hk.owner, hk.funded⟩
      | @created creator vault args bump m₁ a hix hs =>
        have hc := hs.creates
        -- a vault is created at a derived address only
        have hne : k ≠ vault.key := by
          rintro rfl
          exact hk.foreign hs.canonical.isPda
        exact ⟨(hc.other k hne).1.trans hk.owner,
          ne_zero_of_le (hc.lamports k hk.owner) hk.funded⟩
      | @performed vault op _ hp hix =>
        have hf := hp.frame
        -- the vault is not blank, so it is another account
        have hne : k ≠ vault.key := by
          rintro rfl
          exact hp.not_blank hk.blank
        exact ⟨hf.owner k hk.owner,
          ne_zero_of_le (hf.lamports k hk.owner fun heq => absurd heq hne) hk.funded⟩
    | rejected _ => exact ⟨hk.owner, hk.funded⟩
    | environment h _ =>
      obtain ⟨howner, -, hle⟩ := (h k).ours hk.owner hk.funded
      exact ⟨howner, ne_zero_of_le hle hk.funded⟩
  exact ⟨hkept.1, hkept.2, hprov'.blank k hk.foreign hkept.1, hk.foreign⟩

/-- **Every vault was created by its `Initialize`.** -/
theorem Run.exists_initialize {tr : List (Edge Machine Label)} {a : HybridAccount}
    (hwf : WellFormed P m) (hrun : Run (chain P) m tr m') (hno : ∀ b, ¬ VaultAt P m v b)
    (hv : VaultAt P m' v a) : ∃ i ∈ tr, i.label.call = some (.initializeAccount, v) := by
  have hinv := hrun.invariant_mem (I := WellFormed P) hwf fun _ _ hstep => Step.wellFormed hstep
  -- the step that makes the vault appear can only be an `Initialize`
  obtain ⟨tr₁, i, tr₂, rfl, hbefore, hafter, -⟩ := hrun.exists_last_entry
    (Q := fun s => ∃ b, VaultAt P s v b) (fun h => hno _ h.choose_spec) ⟨a, hv⟩
  obtain ⟨-, hstep, -⟩ := Run.cons_middle_iff.mp hrun
  have hmem : i ∈ tr₁ ++ i :: tr₂ := List.mem_append_right _ List.mem_cons_self
  obtain ⟨b, hvb⟩ := hafter
  rcases Step.vault_origin (hinv i hmem).1 hstep hvb with hvault | hcall
  · exact absurd hvault hbefore
  · exact ⟨i, hmem, hcall⟩

/-- **Spoofed accounts are inert.** In every run from the deployment, whatever accounts others hand
to the program: what the program owns at an address that is not derived is zero; an account that
has been handed over stays as it is, and no later instruction but the harness succeeds with it as
the vault or as the recovery config; no instruction succeeds with a recovery config as the vault or
a vault as the recovery config; and an operation is performed only on an account that an earlier
`Initialize` created, at the canonical address of its creator and index. -/
theorem spoofed_inert {tr : List (Edge Machine Label)} (hinit : Genesis P m)
    (hrun : Run (chain P) m tr m') :
    (∀ e ∈ tr, ∀ k, ¬ P.IsPda k → e.post.owner k = P.programId → ∀ b ∈ e.post.data k, b = 0) ∧
    (∀ (before after : List (Edge Machine Label)) (s : Edge Machine Label) (k : Pubkey),
      tr = before ++ s :: after → Spoofed P s.post k → ∀ e ∈ after, Spoofed P e.post k ∧
        e.label.hybridAccount ≠ some k ∧ e.label.recoveryConfig ≠ some k) ∧
    (∀ e ∈ tr, ∀ k,
      (e.label.hybridAccount = some k → ∀ c : RecoveryConfig, e.pre.data k ≠ c.data) ∧
      (e.label.recoveryConfig = some k → ∀ a : HybridAccount, e.pre.data k ≠ a.data)) ∧
    ∀ (before after : List (Edge Machine Label)) (e : Edge Machine Label) (v : Pubkey)
      (op : VaultOp), tr = before ++ e :: after → PerformsOn P e.pre v op e.label e.post →
      (∃ i ∈ before, i.label.call = some (.initializeAccount, v)) ∧
      ∃ a, VaultAt P e.pre v a ∧ CanonicalAddress P v a.fields := by
  have hprov : Provenance P m := Reachable.provenance (Reachable.of_init hinit)
  have hinv := hrun.invariant_mem (I := Provenance P) hprov fun _ _ hstep => Step.provenance hstep
  refine ⟨fun e he => (hinv e he).2.blank, ?_, ?_, ?_⟩
  · intro before after s k htr hspoofed e he
    subst htr
    have hs : s ∈ before ++ s :: after := List.mem_append_right _ List.mem_cons_self
    obtain ⟨-, -, hafter⟩ := Run.cons_middle_iff.mp hrun
    -- being spoofed is kept together with the invariant of the chain
    obtain ⟨hpre, hpost⟩ := hafter.invariant_mem (I := fun s => Provenance P s ∧ Spoofed P s k)
      ⟨(hinv s hs).2, hspoofed⟩
      (fun _ _ hstep hpre => ⟨Step.provenance hstep hpre.1, Step.spoofed hpre.1 hstep hpre.2⟩) e he
    have hstep := hafter.step he
    refine ⟨hpost.2, ?_, ?_⟩
    · intro hk
      exact hpre.2.foreign (Step.hybrid_position hpre.1 hstep hk).1
    · intro hk
      exact hpre.2.foreign (Step.config_position hstep hk).1
  · intro e he k
    have hstep := hrun.step he
    refine ⟨?_, ?_⟩
    · intro hk c hc
      rcases (Step.hybrid_position (hinv e he).1 hstep hk).2 with hnil | ⟨a, ha⟩
      · exact c.data_ne_nil (hc.symm.trans hnil)
      · exact SocialRecovery.data_ne_config (ha.symm.trans hc)
    · intro hk a ha
      rcases (Step.config_position hstep hk).2 with hnil | ⟨c, hc⟩
      · exact a.data_ne_nil (ha.symm.trans hnil)
      · exact SocialRecovery.data_ne_config (ha.symm.trans hc)
  · -- no account was the program's at the deployment, so the vault was created since
    intro before after e v op htr hop
    subst htr
    have he : e ∈ before ++ e :: after := List.mem_append_right _ List.mem_cons_self
    obtain ⟨hbefore, -, -⟩ := Run.cons_middle_iff.mp hrun
    obtain ⟨a, a', -, hva, -⟩ := hop.effect (hinv e he).1.wellFormed
    refine ⟨Run.exists_initialize hprov.wellFormed hbefore ?_ hva, a, hva,
      (hinv e he).1.canonical hva⟩
    intro b hvb
    exact hinit.notOurs v hvb.owner

section Replay

open Sample

/-- An address somebody holds the key of. -/
def spoofed : Pubkey := ⟨List.replicate 32 39, rfl⟩

/-- The deployment with an account of a vault's size that somebody has assigned to the program. -/
def spoofedGenesis : Machine :=
  (genesis.set spoofed ⟨8686080, programId, List.replicate accountDataLen 0⟩).begin

theorem spoofedGenesis_step : Step platform genesis .environment spoofedGenesis := by
  refine Step.environment_set (by decide +kernel) (not_isPda (by decide +kernel)) ?_
  intro _ b hb
  exact List.eq_of_mem_replicate hb

/-- The account stays blank when a vault is created. -/
theorem spoofed_inert_replayed :
    Spoofed platform spoofedGenesis spoofed ∧
      ∀ e ∈ replay platform spoofedGenesis [createEd25519Vault],
        Spoofed platform e.post spoofed := by
  have hruntime : ∀ inv ∈ [createEd25519Vault], inv.PrecompilesAccepted platform := by
    decide +kernel
  have hset : spoofedGenesis.accounts spoofed =
      ⟨8686080, programId, List.replicate accountDataLen 0⟩ := by
    show (genesis.set spoofed _).accounts spoofed = _
    rw [Machine.accounts_set, if_pos rfl]
  have hspoofed : Spoofed platform spoofedGenesis spoofed := by
    refine ⟨?_, ?_, ?_, not_isPda (by decide +kernel)⟩
    · rw [Machine.owner, hset]
      rfl
    · rw [Machine.lamports, hset]
      decide
    · rw [Machine.data, hset]
      intro b hb
      exact List.eq_of_mem_replicate hb
  have hrun := run_replay spoofedGenesis hruntime
  refine ⟨hspoofed, ?_⟩
  generalize replay platform spoofedGenesis [createEd25519Vault] = later at hrun ⊢
  generalize replayed platform spoofedGenesis [createEd25519Vault] = last at hrun
  intro e he
  exact ((spoofed_inert genesis_init (.cons spoofedGenesis_step hrun)).2.1 [] later
    ⟨genesis, .environment, spoofedGenesis⟩ spoofed rfl hspoofed e he).1

end Replay

end DualKey
