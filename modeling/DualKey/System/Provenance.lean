import DualKey.System.Chain

/-!
# Where the program's accounts come from

Anyone can hand a zeroed account to the program, at any address they can sign for. They
cannot sign for the program's derived addresses, so what the program owns there it has
created itself: a vault with `Initialize`, or a recovery config with `SetRecoveryConfig`.
`Provenance` says that a derived address is untouched or holds the vault or the recovery
config it was derived for, and that the program's accounts everywhere else are blank. It
holds in every reachable state.
-/

namespace DualKey

open Transition

/-- The address of a vault is derived from a creator and the index the vault stores, with the
stored bump. -/
def CanonicalAddress (P : Platform) (v : Pubkey) (f : HybridFields) : Prop :=
  ∃ creator, P.tryFindProgramAddress (pdaSeeds creator (u32ToLe f.accountIndex)) P.programId =
    some (v, f.bump)

/-- What is at a derived address. -/
inductive PdaContent (P : Platform) (m : Machine) (k : Pubkey) : Prop where
  | untouched (howner : m.owner k = systemProgramId) (hdata : m.data k = [])
  | vault {a : HybridAccount} (hv : VaultAt P m k a) (haddress : CanonicalAddress P k a.fields)
  | config {c : RecoveryConfig} (howner : m.owner k = P.programId) (hdata : m.data k = c.data)
    (haddress : ∃ v bump, SocialRecovery.IsRecoveryAddress P v k bump)

/-- The invariant of the program's accounts and addresses. -/
structure Provenance (P : Platform) (m : Machine) : Prop where
  wellFormed : WellFormed P m
  derived : ∀ k, P.IsPda k → PdaContent P m k
  blank : ∀ k, ¬ P.IsPda k → m.owner k = P.programId → ∀ b ∈ m.data k, b = 0

variable {P : Platform} {inv : Invocation} {m m' : Machine} {v k : Pubkey} {vault : AccountInfo}
  {op : VaultOp} {l : Label} {a : HybridAccount}

theorem SocialRecovery.IsRecoveryAddress.isPda {bump : UInt8} (h : IsRecoveryAddress P v k bump) :
    P.IsPda k := ⟨_, P.find_spec _ _ _ h⟩

theorem CanonicalAddress.isPda {f : HybridFields} (h : CanonicalAddress P v f) : P.IsPda v := by
  obtain ⟨creator, hfind⟩ := h
  exact ⟨_, P.find_spec _ _ _ hfind⟩

/-- An operation keeps the index and the bump of a vault. -/
theorem VaultOp.onFields_seeds (op : VaultOp) (f : HybridFields) :
    (op.onFields f).accountIndex = f.accountIndex ∧ (op.onFields f).bump = f.bump := by
  cases op <;> exact ⟨rfl, rfl⟩

theorem CanonicalAddress.onFields {f : HybridFields} (h : CanonicalAddress P v f) (op : VaultOp) :
    CanonicalAddress P v (op.onFields f) := by
  obtain ⟨creator, hfind⟩ := h
  obtain ⟨hindex, hbump⟩ := op.onFields_seeds f
  refine ⟨creator, ?_⟩
  rw [hindex, hbump]
  exact hfind

/-! ### Addresses of the system program -/

/-- An operation takes an account from the system program only to make it the recovery config. -/
theorem Performs.system (h : Performs P inv m vault op m') (hk : m.owner k = systemProgramId) :
    m'.owner k = P.programId ∨ (m'.owner k = systemProgramId ∧ m'.data k = m.data k) := by
  -- an account of the program is not one of the system program
  have hours {k' : Pubkey} (hk' : m.owner k' = P.programId) : k ≠ k' := by
    rintro rfl
    exact P.programId_ne_system (hk'.symm.trans hk)
  obtain ⟨_, _, heffect⟩ := h.effect
  have hvault : k ≠ vault.key := hours heffect.owner
  -- writing data of the program's accounts shows nowhere else
  have hset {config : AccountInfo} {d : List UInt8}
      (hc : SocialRecovery.ClearsPending P (m.setData vault.key d) config m') :
      m'.owner k = systemProgramId ∧ m'.data k = m.data k := by
    cases hc with
    | absent _ => simp [hk, hvault]
    | cleared howner _ _ =>
      rw [Machine.owner_setData] at howner
      simp [hk, hvault, hours howner]
  cases h with
  | transferSol _ _ hmoves =>
    obtain ⟨hdata, howner, -, -⟩ := hmoves.frame
    right
    rw [howner, hdata]
    simp [hk, hvault]
  | transferSpl _ hc hmoves =>
    obtain ⟨howner, hframe, -⟩ := hmoves.frame hc.checks.program
    right
    rw [howner, Machine.owner_setData, (hframe k (Or.inl (by rwa [Machine.owner_setData]))).1,
      Machine.data_setData, if_neg hvault]
    exact ⟨hk, rfl⟩
  | rotateEd25519 _ _ hclears => exact Or.inr (hset hclears)
  | recoverEd25519 _ _ hclears => exact Or.inr (hset hclears)
  | @setConfig config _ _ _ _ _ _ _ _ _ m₁ _ hc hstores =>
    obtain ⟨hother, hconfig, -⟩ := hstores.frame
    -- creating the config is how an address leaves the system program
    by_cases hkey : k = config.key
    · left
      rw [Machine.owner_setData, hkey, hconfig]
    · right
      obtain ⟨howner, hdata⟩ := hother k hkey
      rw [Machine.owner_setData, howner, Machine.data_setData, if_neg hvault, hdata]
      exact ⟨hk, rfl⟩
  | initiate _ hc => simp [hk, hours hc.configOwner]
  | finalize hc => simp [hk, hvault, hours hc.configOwner]
  | cancel _ hc => simp [hk, hvault, hours hc.configOwner]
  | rotateFalcon _ _ _ => simp [hk, hvault]
  | changePolicy _ _ => simp [hk, hvault]
  | setRecovery _ _ => simp [hk, hvault]

/-! ### The invariant -/

/-- What stays as it is keeps its provenance. -/
theorem PdaContent.congr (h : PdaContent P m k) (howner : m'.owner k = m.owner k)
    (hdata : m'.data k = m.data k) : PdaContent P m' k := by
  cases h with
  | untouched hsystem hnil => exact .untouched (howner.trans hsystem) (hdata.trans hnil)
  | vault hv haddress =>
    exact .vault ⟨howner.trans hv.owner, hdata.trans hv.data, hv.version⟩ haddress
  | config hprogram hc haddress =>
    exact .config (howner.trans hprogram) (hdata.trans hc) haddress

/-- The account of a vault operation is at its canonical address. -/
theorem Provenance.canonical_of_data (h : Provenance P m) (howner : m.owner v = P.programId)
    (hdata : m.data v = a.data) (hblank : ¬ ∀ b ∈ m.data v, b = 0) :
    CanonicalAddress P v a.fields := by
  have hpda : P.IsPda v := by
    by_contra hno
    exact hblank (h.blank v hno howner)
  cases h.derived v hpda with
  | untouched hsystem _ => exact absurd (howner.symm.trans hsystem) P.programId_ne_system
  | vault hv haddress =>
    obtain rfl := HybridAccount.data_injective (hdata.symm.trans hv.data)
    exact haddress
  | config _ hc _ => exact absurd (hdata.symm.trans hc) SocialRecovery.data_ne_config

/-- Every vault is at its canonical address. -/
theorem Provenance.canonical (h : Provenance P m) (hv : VaultAt P m v a) :
    CanonicalAddress P v a.fields := by
  refine h.canonical_of_data hv.owner hv.data ?_
  rw [hv.data]
  exact HybridAccount.not_blank hv.version

theorem Performs.provenance (hprov : Provenance P m) (h : Performs P inv m vault op m') :
    Provenance P m' := by
  have hf := h.frame
  obtain ⟨a, a', heffect, -, hvalid⟩ := h.effect_valid hprov.wellFormed
  have hvault : CanonicalAddress P vault.key a.fields :=
    hprov.canonical_of_data heffect.owner heffect.data h.not_blank
  refine ⟨h.wellFormed hprov.wellFormed, ?_, ?_⟩
  · intro k hpda
    by_cases hkey : k = vault.key
    · subst hkey
      refine .vault (a := a') ⟨hf.owner _ heffect.owner, heffect.data', ?_⟩ ?_
      · rw [heffect.fields]
        exact (VaultOp.onFields_valid hvalid).1
      · rw [heffect.fields]
        exact hvault.onFields op
    · -- what the program owned is kept, or is the config the operation writes
      by_cases hk : m.owner k = P.programId
      · rcases hf.data k hkey hk with hsame | ⟨-, ⟨bump, haddress⟩, c, c', -, hc', -⟩
        · exact (hprov.derived k hpda).congr ((hf.owner k hk).trans hk.symm) hsame
        · exact .config (hf.owner k hk) hc' ⟨vault.key, bump, haddress⟩
      · cases hprov.derived k hpda with
        -- an untouched address stays untouched or becomes the config
        | untouched hsystem hnil =>
          rcases h.system hsystem with hprogram | ⟨hsystem', hdata⟩
          · obtain ⟨-, ⟨bump, haddress⟩, -, c', hc', -⟩ := hf.fresh k hk hprogram
            exact .config hprogram hc' ⟨vault.key, bump, haddress⟩
          · exact .untouched hsystem' (hdata.trans hnil)
        | vault hv _ => exact absurd hv.owner hk
        | config howner _ _ => exact absurd howner hk
  · intro k hno hk'
    by_cases hkey : k = vault.key
    · -- whatever the operation writes is at a derived address
      exact absurd (hkey ▸ hvault.isPda) hno
    · by_cases hk : m.owner k = P.programId
      · rcases hf.data k hkey hk with hsame | ⟨-, ⟨bump, haddress⟩, -⟩
        · rw [hsame]
          exact hprov.blank k hno hk
        · exact absurd haddress.isPda hno
      · obtain ⟨-, ⟨bump, haddress⟩, -⟩ := hf.fresh k hk hk'
        exact absurd haddress.isPda hno

theorem Initialize.Succeeds.canonical {payload : List UInt8} {creator : AccountInfo} {args : Args}
    {bump : UInt8} {m₁ : Machine}
    (h : Succeeds P inv payload m creator vault args bump m₁ a) :
    CanonicalAddress P vault.key a.fields := by
  obtain ⟨prepared, -, hfields⟩ := h.fields
  refine ⟨creator.key, ?_⟩
  rw [hfields]
  exact h.address

theorem Creates.provenance (hprov : Provenance P m) (h : Creates P m v m' a)
    (hvalid : a.fields.Valid) (haddress : CanonicalAddress P v a.fields) : Provenance P m' := by
  refine ⟨h.wellFormed hprov.wellFormed hvalid, ?_, ?_⟩
  · intro k hpda
    -- the address is now the vault's, and no other account was written
    by_cases hkey : k = v
    · subst hkey
      exact .vault (h.vaultAt hvalid) haddress
    · obtain ⟨howner, hdata⟩ := h.other k hkey
      exact (hprov.derived k hpda).congr howner hdata
  · intro k hno hk'
    have hkey : k ≠ v := by
      rintro rfl
      exact hno haddress.isPda
    obtain ⟨howner, hdata⟩ := h.other k hkey
    rw [hdata]
    exact hprov.blank k hno (howner.symm.trans hk')

/-- Other programs leave derived addresses alone and hand over nothing but zeros. -/
theorem Outside.provenance (hprov : Provenance P m)
    (h : ∀ k, Outside P k (m.accounts k) (m'.accounts k)) : Provenance P m' := by
  refine ⟨Outside.wellFormed hprov.wellFormed h, ?_, ?_⟩
  · intro k hpda
    have hcontent := hprov.derived k hpda
    by_cases hk : m.owner k = P.programId
    · -- the runtime protects what the program owns once it has lamports
      have hfunded : m.lamports k ≠ 0 := by
        cases hcontent with
        | untouched hsystem _ => exact absurd (hk.symm.trans hsystem) P.programId_ne_system
        | vault hv _ => exact (hprov.wellFormed.vault hv).1
        | config _ hc _ => exact (hprov.wellFormed.config hk hc).1
      obtain ⟨howner, hdata, -⟩ := (h k).ours hk hfunded
      exact hcontent.congr (Eq.trans howner hk.symm) hdata
    · obtain ⟨howner, hdata, -⟩ := (h k).derived hpda hk
      exact hcontent.congr howner hdata
  · intro k hno hk'
    rcases (h k).handed hk' with ⟨hk, hdata⟩ | hblank
    · have hsame : m'.data k = m.data k := hdata
      rw [hsame]
      exact hprov.blank k hno hk
    · exact hblank

/-- An instruction starts with the invariant. -/
theorem Provenance.begin (h : Provenance P m) : Provenance P m.begin :=
  ⟨h.wellFormed, fun k hpda => (h.derived k hpda).congr rfl rfl, h.blank⟩

theorem Step.provenance (h : Step P m l m') (hprov : Provenance P m) : Provenance P m' := by
  cases h with
  | executed _ h =>
    have hout := process_outcome h
    cases hout with
    | harness _ _ => exact hprov.begin
    | created _ hs => exact hs.creates.provenance hprov.begin hs.valid hs.canonical
    | performed hp _ => exact hp.provenance hprov.begin
  | rejected _ => exact hprov.begin
  | environment h _ => exact Outside.provenance hprov h

/-- **Every reachable state has the invariant.** -/
theorem Reachable.provenance (h : Reachable (chain P) m) : Provenance P m := by
  refine h.invariant ?_ fun _ _ _ hstep => Step.provenance hstep
  intro s hinit
  refine ⟨fun k hk => absurd hk (hinit.notOurs k), ?_, fun k _ hk => absurd hk (hinit.notOurs k)⟩
  intro k hpda
  obtain ⟨howner, hdata⟩ := hinit.derived k hpda
  exact .untouched howner hdata

end DualKey
