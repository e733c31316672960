import DualKey.System.Effect
import DualKey.Foundations.Transition

/-!
# The chain

The program's accounts live on a chain that everyone writes to. A step is an
instruction of the program that succeeds, an instruction of the program that fails and
is rolled back, or whatever other programs do in between. `Outside` says what others
can do to one account: they neither write nor debit the program's accounts, they cannot
sign for its derived addresses, and an account they hand over to the program is zeroed.

`WellFormed` is the invariant of the accounts the program owns: each is blank, a vault
or a recovery config. `Step.vault_cases` and `Step.config_cases` say what one
step can do to a given vault and its recovery config; the properties are inductions over
runs from these two.
-/

namespace DualKey

open Transition

variable (P : Platform)

/-- The machine an instruction starts with: it has made no invocations. -/
def Machine.begin (m : Machine) : Machine := { m with cpis := [] }

@[simp] theorem Machine.data_begin (m : Machine) (k : Pubkey) : m.begin.data k = m.data k := rfl
@[simp] theorem Machine.owner_begin (m : Machine) (k : Pubkey) : m.begin.owner k = m.owner k := rfl
@[simp] theorem Machine.cpis_begin (m : Machine) : m.begin.cpis = [] := rfl

@[simp] theorem Machine.lamports_begin (m : Machine) (k : Pubkey) :
    m.begin.lamports k = m.lamports k := rfl

/-- What other programs can do to the account at `k`. -/
structure Outside (k : Pubkey) (a a' : Account) : Prop where
  /-- Only the program writes or debits an account it owns. -/
  ours : a.owner = P.programId → a.lamports ≠ 0 →
    a'.owner = P.programId ∧ a'.data = a.data ∧ a.lamports ≤ a'.lamports
  /-- Only the program signs for its derived addresses. -/
  derived : P.IsPda k → a.owner ≠ P.programId →
    a'.owner = a.owner ∧ a'.data = a.data ∧ a.lamports ≤ a'.lamports
  /-- An account that is handed to the program is zeroed. -/
  handed : a'.owner = P.programId →
    (a.owner = P.programId ∧ a'.data = a.data) ∨ ∀ b ∈ a'.data, b = 0

/-- The label of a step. -/
inductive Label where
  | executed (inv : Invocation)
  | rejected (inv : Invocation)
  | environment

/-- The live instruction a successful step called, with the vault it named. -/
def Label.call : Label → Option (DualKeyInstruction × Pubkey)
  | .executed inv => inv.call
  | .rejected _ => none
  | .environment => none

/-- One step of the chain. -/
inductive Step : Machine → Label → Machine → Prop where
  | executed {m m' : Machine} {inv : Invocation} (hruntime : inv.PrecompilesAccepted P)
    (h : Processor.process P inv.accounts inv.data inv.enter m.begin = .ok ((), m')) :
    Step m (.executed inv) m'
  | rejected {m : Machine} {inv : Invocation}
    (h : ∀ m', Processor.process P inv.accounts inv.data inv.enter m.begin ≠ .ok ((), m')) :
    Step m (.rejected inv) m.begin
  | environment {m m' : Machine} (h : ∀ k, Outside P k (m.accounts k) (m'.accounts k))
    (hcpis : m'.cpis = []) : Step m .environment m'

/-- Before the program was deployed: it owns nothing, and its derived addresses are untouched
accounts of the system program. -/
structure Genesis (m : Machine) : Prop where
  notOurs : ∀ k, m.owner k ≠ P.programId
  derived : ∀ k, P.IsPda k → m.owner k = systemProgramId ∧ m.data k = []

/-- The chain as a transition system. -/
def chain : Transition.System Machine Label where
  init := Genesis P
  step := Step P

/-! ### The accounts of the program -/

/-- The fields of a vault: the current version and a known policy. -/
def HybridFields.Valid (f : HybridFields) : Prop :=
  f.version = accountVersion ∧ ∃ policy, AuthorizationPolicy.fromU8 f.policy = some policy

/-- The data of an account the program has initialized. -/
inductive Content : List UInt8 → Prop where
  | vault (a : HybridAccount) (h : a.fields.Valid) : Content a.data
  | config (c : RecoveryConfig) (h : 1 ≤ c.fields.delaySlots) : Content c.data

/-- Every account of the program is blank, or funded and a vault or a recovery config. -/
def WellFormed (m : Machine) : Prop :=
  ∀ k, m.owner k = P.programId →
    (∀ b ∈ m.data k, b = 0) ∨ (m.lamports k ≠ 0 ∧ Content (m.data k))

/-- The vault at `v`, with its account. -/
structure VaultAt (m : Machine) (v : Pubkey) (a : HybridAccount) : Prop where
  owner : m.owner v = P.programId
  data : m.data v = a.data
  version : a.fields.version = accountVersion

section Blank

/-! Blank data is no vault and no config. -/

theorem HybridAccount.version_of_blank {a : HybridAccount} (h : ∀ b ∈ a.data, b = 0) :
    a.fields.version = 0 := Buffer.byteAt_of_all_zero h

theorem HybridAccount.recovery_of_blank {a : HybridAccount} (h : ∀ b ∈ a.data, b = 0) :
    a.fields.recovery = false := by
  have hflags : a.fields.flags = 0 := Buffer.byteAt_of_all_zero h
  rw [HybridFields.recovery, hflags]
  decide

theorem HybridAccount.not_blank {a : HybridAccount} (h : a.fields.version = accountVersion) :
    ¬ ∀ b ∈ a.data, b = 0 := by
  intro hblank
  rw [version_of_blank hblank] at h
  exact absurd h (by decide)

theorem RecoveryConfig.not_blank {c : RecoveryConfig} : ¬ ∀ b ∈ c.data, b = 0 := by
  intro hblank
  have hzero : c.bytes.getByte 0 = 0 := Buffer.byteAt_of_all_zero hblank
  rw [c.version_eq] at hzero
  exact absurd hzero (by decide)

theorem configIn_blank {data : List UInt8} (h : ∀ b ∈ data, b = 0) : configIn data = none := by
  rw [Option.eq_none_iff_forall_ne_some]
  intro c hc
  obtain rfl := configIn_eq_some.mp hc
  exact RecoveryConfig.not_blank h

end Blank

/-- The content of a vault account is a valid vault. -/
theorem Content.valid {a : HybridAccount} (h : Content a.data) : a.fields.Valid := by
  generalize hdata : a.data = data at h
  cases h with
  | vault b hb =>
    obtain rfl := HybridAccount.data_injective hdata
    exact hb
  | config c _ => exact absurd hdata SocialRecovery.data_ne_config

/-- The content of a recovery config has a delay. -/
theorem Content.delay {c : RecoveryConfig} (h : Content c.data) : 1 ≤ c.fields.delaySlots := by
  generalize hdata : c.data = data at h
  cases h with
  | vault a _ => exact absurd hdata.symm SocialRecovery.data_ne_config
  | config d hd =>
    obtain rfl := RecoveryConfig.data_injective hdata
    exact hd

variable {P} {m m' : Machine} {v : Pubkey} {a : HybridAccount}

/-- An address holds one vault. -/
theorem VaultAt.unique {b : HybridAccount} (h : VaultAt P m v a) (h' : VaultAt P m v b) : a = b :=
  HybridAccount.data_injective (h.data.symm.trans h'.data)

/-- A vault account is a valid one with lamports. -/
theorem WellFormed.vault (hwf : WellFormed P m) (hv : VaultAt P m v a) :
    m.lamports v ≠ 0 ∧ a.fields.Valid := by
  rcases hwf v hv.owner with hblank | ⟨hl, hcontent⟩
  · rw [hv.data] at hblank
    exact absurd hblank (HybridAccount.not_blank hv.version)
  · rw [hv.data] at hcontent
    exact ⟨hl, hcontent.valid⟩

/-- A recovery config of the program has lamports and a delay. -/
theorem WellFormed.config {k : Pubkey} {c : RecoveryConfig} (hwf : WellFormed P m)
    (howner : m.owner k = P.programId) (hdata : m.data k = c.data) :
    m.lamports k ≠ 0 ∧ 1 ≤ c.fields.delaySlots := by
  rcases hwf k howner with hblank | ⟨hl, hcontent⟩
  · rw [hdata] at hblank
    exact absurd hblank RecoveryConfig.not_blank
  · rw [hdata] at hcontent
    exact ⟨hl, hcontent.delay⟩

/-- An operation keeps the fields of a vault valid. -/
theorem VaultOp.onFields_valid {op : VaultOp} {f : HybridFields} (h : f.Valid) :
    (op.onFields f).Valid := by
  obtain ⟨hversion, policy, hpolicy⟩ := h
  cases op with
  | changePolicy target threshold =>
    exact ⟨hversion, target, AuthorizationPolicy.fromU8_asU8 target⟩
  | _ => exact ⟨hversion, policy, hpolicy⟩

/-! ### Operations in a well-formed state -/

section Operations

variable {inv : Invocation} {vault : AccountInfo} {op : VaultOp}

/-- A blank account passes no operation: it has no version and no recovery flag. -/
theorem Performs.not_blank (h : Performs P inv m vault op m') :
    ¬ ∀ b ∈ m.data vault.key, b = 0 := by
  intro hblank
  by_cases hsigned : op.isSigned = true
  · obtain ⟨_, _, _, a, _, -, -, hauth⟩ := h.authorized hsigned
    rw [hauth.data] at hblank
    exact HybridAccount.not_blank hauth.version hblank
  · -- the guardian's operations check the flag in place of the version
    have hflag : ∃ a : HybridAccount, m.data vault.key = a.data ∧ a.fields.recovery = true := by
      cases h with
      | initiate _ hc => exact ⟨_, hc.vaultData, hc.enabled⟩
      | finalize hc => exact ⟨_, hc.vaultData, hc.enabled⟩
      | _ => exact absurd rfl hsigned
    obtain ⟨a, ha, henabled⟩ := hflag
    rw [ha] at hblank
    rw [HybridAccount.recovery_of_blank hblank] at henabled
    exact Bool.false_ne_true henabled

/-- In a well-formed state an operation turns one valid vault account into another. -/
theorem Performs.effect_valid (hwf : WellFormed P m) (h : Performs P inv m vault op m') :
    ∃ a a', VaultEffect P m vault.key op m' a a' ∧ m.lamports vault.key ≠ 0 ∧ a.fields.Valid := by
  obtain ⟨a, a', he⟩ := h.effect
  refine ⟨a, a', he, ?_⟩
  rcases hwf vault.key he.owner with hblank | ⟨hl, hcontent⟩
  · exact absurd hblank h.not_blank
  · rw [he.data] at hcontent
    exact ⟨hl, hcontent.valid⟩

theorem Performs.wellFormed (hwf : WellFormed P m) (h : Performs P inv m vault op m') :
    WellFormed P m' := by
  obtain ⟨a, a', he, hl, hvalid⟩ := h.effect_valid hwf
  have hf := h.frame
  intro k hk'
  by_cases hv : k = vault.key
  · subst hv
    refine Or.inr ⟨h.funded hl, ?_⟩
    rw [he.data']
    exact .vault a' (he.fields ▸ op.onFields_valid hvalid)
  · by_cases hk : m.owner k = P.programId
    · have hpos : m.lamports k ≠ 0 → m'.lamports k ≠ 0 :=
        ne_zero_of_le (hf.lamports k hk fun hkv => absurd hkv hv)
      rcases hf.data k hv hk with hsame | ⟨-, -, c, c', hc, hc', hdelay⟩
      · rw [hsame]
        rcases hwf k hk with hblank | ⟨hne, hcontent⟩
        · exact Or.inl hblank
        · exact Or.inr ⟨hpos hne, hcontent⟩
      · -- one config has become another
        obtain ⟨hne, hdelay'⟩ := hwf.config hk hc
        rw [hc']
        exact Or.inr ⟨hpos hne, .config c' (hdelay hdelay')⟩
    · -- a config that was not there before
      obtain ⟨-, -, -, c', hc', hdelay, hne⟩ := hf.fresh k hk hk'
      rw [hc']
      exact Or.inr ⟨hne, .config c' hdelay⟩

end Operations

theorem Creates.wellFormed (hwf : WellFormed P m) (h : Creates P m v m' a)
    (hvalid : a.fields.Valid) : WellFormed P m' := by
  intro k hk'
  by_cases hv : k = v
  · subst hv
    rw [h.data]
    exact Or.inr ⟨h.funded, .vault a hvalid⟩
  · obtain ⟨howner, hdata⟩ := h.other k hv
    have hk : m.owner k = P.programId := howner.symm.trans hk'
    rw [hdata]
    rcases hwf k hk with hblank | ⟨hne, hcontent⟩
    · exact Or.inl hblank
    · exact Or.inr ⟨ne_zero_of_le (h.lamports k hk) hne, hcontent⟩

theorem Creates.vaultAt (h : Creates P m v m' a) (hvalid : a.fields.Valid) : VaultAt P m' v a :=
  ⟨h.owner, h.data, hvalid.1⟩

/-- A fresh vault is valid. -/
theorem Initialize.Succeeds.valid {inv : Invocation} {payload : List UInt8}
    {creator vault : AccountInfo} {args : Initialize.Args} {bump : UInt8} {m₁ : Machine}
    (h : Initialize.Succeeds P inv payload m creator vault args bump m₁ a) : a.fields.Valid := by
  obtain ⟨prepared, -, hfields⟩ := h.fields
  rw [hfields]
  exact ⟨rfl, args.policy, AuthorizationPolicy.fromU8_asU8 args.policy⟩

/-- What other programs do to a well-formed account of the program. -/
theorem Outside.wellFormed (hwf : WellFormed P m)
    (h : ∀ k, Outside P k (m.accounts k) (m'.accounts k)) : WellFormed P m' := by
  intro k hk'
  have hout := h k
  rcases hout.handed hk' with ⟨hk, hsame⟩ | hblank
  · have hdata : m'.data k = m.data k := hsame
    rw [hdata]
    rcases hwf k hk with hblank | ⟨hne, hcontent⟩
    · exact Or.inl hblank
    · exact Or.inr ⟨ne_zero_of_le (hout.ours hk hne).2.2 hne, hcontent⟩
  · exact Or.inl hblank

theorem Step.wellFormed {l : Label} (h : Step P m l m') (hwf : WellFormed P m) :
    WellFormed P m' := by
  cases h with
  | executed _ h =>
    have hwf' : WellFormed P m.begin := hwf
    have hout := process_outcome h
    cases hout with
    | harness _ _ => exact hwf
    | created _ hs => exact hs.creates.wellFormed hwf' hs.valid
    | performed hp _ => exact hp.wellFormed hwf'
  | rejected _ => exact hwf
  | environment h _ => exact Outside.wellFormed hwf h

theorem Run.wellFormed {tr : List (Edge Machine Label)} (hwf : WellFormed P m)
    (hrun : Run (chain P) m tr m') : WellFormed P m' :=
  hrun.invariant (I := WellFormed P) hwf fun _ _ hstep => Step.wellFormed hstep

/-- **Every reachable state is well formed.** -/
theorem Reachable.wellFormed (h : Reachable (chain P) m) : WellFormed P m :=
  h.invariant (fun _ hg k hk => absurd hk (hg.notOurs k)) fun _ _ _ hstep => Step.wellFormed hstep

/-! ### What a step does to one vault -/

/-- The step performs `op` on the vault at `v`. -/
inductive PerformsOn (P : Platform) (m : Machine) (v : Pubkey) (op : VaultOp) :
    Label → Machine → Prop where
  | mk {inv : Invocation} {vault : AccountInfo} {m' : Machine}
    (hruntime : inv.PrecompilesAccepted P) (hkey : vault.key = v)
    (hix : inv.instruction = some op.instruction) (h : Performs P inv m.begin vault op m') :
    PerformsOn P m v op (.executed inv) m'

/-- The step leaves the vault at `v` alone: it is no call on the vault, makes no invocation
signed for it, and takes nothing from it. -/
structure Quiet (P : Platform) (m : Machine) (v : Pubkey) (l : Label) (m' : Machine) : Prop where
  owner : m'.owner v = P.programId
  data : m'.data v = m.data v
  lamports : m.lamports v ≤ m'.lamports v
  signers : ∀ cpi ∈ m'.cpis, ∀ seeds ∈ cpi.signers,
    P.createProgramAddress seeds P.programId ≠ some v
  call : ∀ ix, l.call ≠ some (ix, v)

section Calls

variable {inv : Invocation} {vault : AccountInfo} {op : VaultOp} {l : Label}

/-- A harness instruction names no vault. -/
theorem call_of_harness {ix : DualKeyInstruction} (hix : inv.instruction = some ix)
    (hharness : ix.isVerificationHarness = true) : inv.call = none := by
  rw [Invocation.call, hix]
  cases ix <;> first | rfl | cases hharness

theorem Performs.call (h : Performs P inv m vault op m')
    (hix : inv.instruction = some op.instruction) :
    inv.call = some (op.instruction, vault.key) := by
  rw [Invocation.call, hix, h.head]
  cases op <;> rfl

theorem Initialize.Succeeds.call {creator : AccountInfo} {args : Initialize.Args} {bump : UInt8}
    {m₁ : Machine} (h : Initialize.Succeeds P inv inv.payload m creator vault args bump m₁ a)
    (hix : inv.instruction = some .initializeAccount) :
    inv.call = some (.initializeAccount, vault.key) := by
  obtain ⟨systemProgram, haccounts, -⟩ := h.accounts
  rw [Invocation.call, hix, haccounts]
  rfl

theorem PerformsOn.call (h : PerformsOn P m v op l m') : l.call = some (op.instruction, v) := by
  cases h with
  | mk _ hkey hix h =>
    subst hkey
    exact h.call hix

/-- **What one step does to a vault**: it leaves the vault alone, or performs one operation
on it. -/
theorem Step.vault_cases (hwf : WellFormed P m) (hv : VaultAt P m v a) (h : Step P m l m') :
    Quiet P m v l m' ∨ ∃ op, PerformsOn P m v op l m' := by
  obtain ⟨hl, -⟩ := hwf.vault hv
  cases h with
  | @executed m' inv hruntime h =>
    have hwf' : WellFormed P m.begin := hwf
    have hout := process_outcome h
    cases hout with
    | @harness ix hix hharness =>
      -- a verification instruction writes nothing and counts as no call
      refine Or.inl ⟨hv.owner, rfl, UInt64.le_refl _, fun cpi hcpi => absurd hcpi List.not_mem_nil,
        fun ix' hcall => ?_⟩
      rw [Label.call, call_of_harness hix hharness] at hcall
      cases hcall
    | @created creator vault _ _ _ _ hix hs =>
      -- a new vault is made of an account of the system program, so not of `v`
      have hc := hs.creates
      have hne : v ≠ vault.key := by
        rintro rfl
        exact P.programId_ne_system (hv.owner.symm.trans hc.system)
      obtain ⟨howner, hdata⟩ := hc.other v hne
      refine Or.inl ⟨howner.trans hv.owner, hdata, hc.lamports v hv.owner,
        fun cpi hcpi seeds hseeds hcreate => ?_, fun ix' hcall => ?_⟩
      · have hsigner := hc.signers cpi hcpi List.not_mem_nil seeds hseeds
        exact hne (Option.some.inj (hcreate.symm.trans hsigner))
      · rw [Label.call, hs.call hix, Option.some.injEq, Prod.mk.injEq] at hcall
        exact hne hcall.2.symm
    | @performed vault op _ hp hix =>
      by_cases hkey : vault.key = v
      · exact Or.inr ⟨op, .mk hruntime hkey hix hp⟩
      · -- an operation on another vault: `v` is not its recovery config either
        have hf := hp.frame
        have hne : v ≠ vault.key := fun h => hkey h.symm
        have hsame : m'.data v = m.data v := by
          rcases hf.data v hne hv.owner with hsame | ⟨-, -, c, c', hc, -⟩
          · exact hsame
          · exact absurd (hv.data.symm.trans hc) SocialRecovery.data_ne_config
        refine Or.inl ⟨hf.owner v hv.owner, hsame, hf.lamports v hv.owner fun h => absurd h hne,
          fun cpi hcpi seeds hseeds hcreate => ?_, fun ix' hcall => ?_⟩
        · obtain ⟨k, hk, hwhich⟩ := hp.signers hcpi List.not_mem_nil hseeds
          -- the seeds sign for one address; `v` is neither the other vault nor fresh
          have hkv : k = v := Option.some.inj (hk.symm.trans hcreate)
          rcases hwhich with ⟨hkv', -⟩ | ⟨-, hsystem⟩
          · exact hne (hkv.symm.trans hkv')
          · rw [hkv] at hsystem
            exact P.programId_ne_system (hv.owner.symm.trans hsystem)
        · rw [Label.call, hp.call hix, Option.some.injEq, Prod.mk.injEq] at hcall
          exact hkey hcall.2
  | rejected _ =>
    exact Or.inl ⟨hv.owner, rfl, UInt64.le_refl _, fun cpi hcpi => absurd hcpi List.not_mem_nil,
      fun ix hcall => by cases hcall⟩
  | environment h hcpis =>
    -- other programs may credit the vault, and no more
    obtain ⟨howner, hdata, hle⟩ := (h v).ours hv.owner hl
    refine Or.inl ⟨howner, hdata, hle, fun cpi hcpi => ?_, fun ix hcall => by cases hcall⟩
    rw [hcpis] at hcpi
    exact absurd hcpi List.not_mem_nil

end Calls

/-- The effect of a step that performs an operation. -/
theorem PerformsOn.effect {op : VaultOp} {l : Label} (hwf : WellFormed P m)
    (h : PerformsOn P m v op l m') :
    ∃ a a', VaultEffect P m v op m' a a' ∧ VaultAt P m v a ∧ VaultAt P m' v a' := by
  cases h with
  | mk _ hkey _ h =>
    subst hkey
    obtain ⟨a, a', he, -, hvalid⟩ := h.effect_valid (m := m.begin) hwf
    have howner' := h.frame.owner _ he.owner
    refine ⟨a, a', ⟨he.owner, he.data, he.data', he.fields, he.nonce⟩,
      ⟨he.owner, he.data, hvalid.1⟩, ⟨howner', he.data', ?_⟩⟩
    rw [he.fields]
    exact (VaultOp.onFields_valid hvalid).1

/-- Only a lamport transfer debits the vault. -/
theorem PerformsOn.lamports {op : VaultOp} {l : Label} (h : PerformsOn P m v op l m')
    (howner : m.owner v = P.programId) (htransfer : ∀ r n, op ≠ .transferSol r n) :
    m.lamports v ≤ m'.lamports v := by
  cases h with
  | mk _ _ _ h => exact h.frame.lamports v howner fun _ => htransfer

/-- A vault stays a vault, with the fields it had or those of one operation. -/
theorem Step.vaultAt {l : Label} (hwf : WellFormed P m) (hv : VaultAt P m v a)
    (h : Step P m l m') :
    ∃ a', VaultAt P m' v a' ∧ ((Quiet P m v l m' ∧ a' = a) ∨
      ∃ op, PerformsOn P m v op l m' ∧ VaultEffect P m v op m' a a') := by
  rcases h.vault_cases hwf hv with hquiet | ⟨op, hop⟩
  · exact ⟨a, ⟨hquiet.owner, hquiet.data.trans hv.data, hv.version⟩, Or.inl ⟨hquiet, rfl⟩⟩
  · obtain ⟨b, a', he, hvb, hv'⟩ := hop.effect hwf
    obtain rfl := hv.unique hvb
    exact ⟨a', hv', Or.inr ⟨op, hop, he⟩⟩

/-- The fields of the vault at `v` satisfy `I`. -/
def VaultFields (P : Platform) (v : Pubkey) (I : HybridFields → Prop) (m : Machine) : Prop :=
  ∃ a, VaultAt P m v a ∧ I a.fields

/-- A property of the fields is kept by a step when the operation it performs, if any, keeps
it. -/
theorem Step.vaultFields {I : HybridFields → Prop} {l : Label} (hwf : WellFormed P m)
    (h : Step P m l m')
    (hkeep : ∀ a op, VaultAt P m v a → PerformsOn P m v op l m' → I a.fields →
      I (op.onFields a.fields))
    (hI : VaultFields P v I m) : VaultFields P v I m' := by
  obtain ⟨a, hva, ha⟩ := hI
  obtain ⟨a', hva', hstep⟩ := h.vaultAt hwf hva
  refine ⟨a', hva', ?_⟩
  rcases hstep with ⟨-, rfl⟩ | ⟨op, hop, heffect⟩
  · exact ha
  · rw [heffect.fields]
    exact hkeep a op hva hop ha

/-- A property of the fields is kept by a run when every operation on the vault keeps it. -/
theorem Run.vaultFields {I : HybridFields → Prop} {tr : List (Edge Machine Label)}
    (hwf : WellFormed P m) (hrun : Run (chain P) m tr m')
    (hkeep : ∀ e ∈ tr, ∀ a op, VaultAt P e.pre v a → PerformsOn P e.pre v op e.label e.post →
      I a.fields → I (op.onFields a.fields))
    (hI : VaultFields P v I m) :
    VaultFields P v I m' ∧ ∀ e ∈ tr, VaultFields P v I e.pre ∧ VaultFields P v I e.post := by
  have hstep : ∀ e ∈ tr, (chain P).step e.pre e.label e.post →
      WellFormed P e.pre ∧ VaultFields P v I e.pre →
      WellFormed P e.post ∧ VaultFields P v I e.post := by
    intro e he hstep hpre
    exact ⟨Step.wellFormed hstep hpre.1, Step.vaultFields hpre.1 hstep (hkeep e he) hpre.2⟩
  have hend := hrun.invariant (I := fun s => WellFormed P s ∧ VaultFields P v I s) ⟨hwf, hI⟩ hstep
  have hmem := hrun.invariant_mem (I := fun s => WellFormed P s ∧ VaultFields P v I s) ⟨hwf, hI⟩
    hstep
  exact ⟨hend.2, fun e he => ⟨(hmem e he).1.2, (hmem e he).2.2⟩⟩

/-- A call on a vault other than `Initialize` is one of its operations. -/
theorem Step.performsOn_of_call {l : Label} {ix : DualKeyInstruction} (h : Step P m l m')
    (hcall : l.call = some (ix, v)) (hix : ix ≠ .initializeAccount) :
    ∃ op, PerformsOn P m v op l m' ∧ op.instruction = ix := by
  cases h with
  | @executed m' inv hruntime h =>
    have hout := process_outcome h
    cases hout with
    | @harness ix' hix' hharness =>
      rw [Label.call, call_of_harness hix' hharness] at hcall
      cases hcall
    | @created creator vault args bump m₁ a hix' hs =>
      rw [Label.call, hs.call hix', Option.some.injEq, Prod.mk.injEq] at hcall
      exact absurd hcall.1.symm hix
    | @performed vault op _ hp hix' =>
      rw [Label.call, hp.call hix', Option.some.injEq, Prod.mk.injEq] at hcall
      exact ⟨op, .mk hruntime hcall.2 hix' hp, hcall.1⟩
  | rejected _ => cases hcall
  | environment _ _ => cases hcall

/-- The program has a vault at `v`. -/
def IsVault (P : Platform) (m : Machine) (v : Pubkey) : Prop :=
  WellFormed P m ∧ ∃ a, VaultAt P m v a

/-- A vault is never closed. -/
theorem Step.isVault {l : Label} (h : Step P m l m') (hv : IsVault P m v) : IsVault P m' v := by
  obtain ⟨hwf, a, hva⟩ := hv
  obtain ⟨a', hva', -⟩ := h.vaultAt hwf hva
  exact ⟨h.wellFormed hwf, a', hva'⟩

/-- A vault was there before the step, or the step is its `Initialize`. -/
theorem Step.vault_origin {l : Label} (hwf : WellFormed P m) (h : Step P m l m')
    (hv : VaultAt P m' v a) :
    (∃ b, VaultAt P m v b) ∨ l.call = some (.initializeAccount, v) := by
  cases h with
  | @executed m' inv hruntime h =>
    have hwf' : WellFormed P m.begin := hwf
    have hout := process_outcome h
    cases hout with
    | harness _ _ => exact Or.inl ⟨a, hv.owner, hv.data, hv.version⟩
    | @created creator vault args bump m₁ b hix hs =>
      by_cases hkey : v = vault.key
      · right
        rw [hkey]
        exact hs.call hix
      · obtain ⟨howner, hdata⟩ := hs.creates.other v hkey
        exact Or.inl ⟨a, howner.symm.trans hv.owner, hdata.symm.trans hv.data, hv.version⟩
    | @performed vault op _ hp hix =>
      left
      by_cases hkey : v = vault.key
      · obtain ⟨b, b', heffect, -, hvalid⟩ := hp.effect_valid hwf'
        rw [hkey]
        exact ⟨b, heffect.owner, heffect.data, hvalid.1⟩
      · -- an operation turns no other account into a vault
        have hf := hp.frame
        by_cases howner : m.owner v = P.programId
        · rcases hf.data v hkey howner with hsame | ⟨-, -, c, c', -, hc', -⟩
          · exact ⟨a, howner, hsame.symm.trans hv.data, hv.version⟩
          · exact absurd (hv.data.symm.trans hc') SocialRecovery.data_ne_config
        · obtain ⟨-, -, -, c', hc', -⟩ := hf.fresh v howner hv.owner
          exact absurd (hv.data.symm.trans hc') SocialRecovery.data_ne_config
  | rejected _ => exact Or.inl ⟨a, hv.owner, hv.data, hv.version⟩
  | environment h _ =>
    left
    rcases (h v).handed hv.owner with ⟨howner, hdata⟩ | hblank
    · exact ⟨a, howner, hdata.symm.trans hv.data, hv.version⟩
    · -- what has been handed over is blank, and a vault is not
      have hblank' : ∀ b ∈ m'.data v, b = 0 := hblank
      rw [hv.data] at hblank'
      exact absurd hblank' (HybridAccount.not_blank hv.version)

/-- A vault is never initialized again. -/
theorem Step.call_ne_initialize {l : Label} (h : Step P m l m') (hv : IsVault P m v) :
    l.call ≠ some (.initializeAccount, v) := by
  obtain ⟨hwf, a, hva⟩ := hv
  rcases h.vault_cases hwf hva with hquiet | ⟨op, hop⟩
  · exact hquiet.call .initializeAccount
  · rw [hop.call]
    intro hcall
    have hix : op.instruction = .initializeAccount := congrArg Prod.fst (Option.some.inj hcall)
    cases op <;> cases hix

/-- Inversion of a successful `Initialize`. -/
theorem Step.created_cases {l : Label} (h : Step P m l m')
    (hcall : l.call = some (.initializeAccount, v)) :
    ∃ (inv : Invocation) (creator vault : AccountInfo) (args : Initialize.Args) (bump : UInt8)
      (m₁ : Machine) (a : HybridAccount),
      Initialize.Succeeds P inv inv.payload m.begin creator vault args bump m₁ a ∧
      l = .executed inv ∧ vault.key = v ∧
      (m₁.allot P.programId vault.key (UInt64.ofNat accountDataLen)
        (Pda.signerSeeds creator.key args.accountIndex bump)).setData vault.key a.data = m' := by
  cases h with
  | @executed m' inv hruntime h =>
    have hout := process_outcome h
    cases hout with
    | @harness ix hix hharness =>
      rw [Label.call, call_of_harness hix hharness] at hcall
      cases hcall
    | @created creator vault args bump m₁ a hix hs =>
      rw [Label.call, hs.call hix, Option.some.injEq, Prod.mk.injEq] at hcall
      exact ⟨inv, creator, vault, args, bump, m₁, a, hs, rfl, hcall.2, rfl⟩
    | @performed vault op _ hp hix =>
      rw [Label.call, hp.call hix] at hcall
      have hinit : op.instruction = .initializeAccount := congrArg Prod.fst (Option.some.inj hcall)
      cases op <;> cases hinit
  | rejected _ => cases hcall
  | environment _ _ => cases hcall

/-- What a successful `Initialize` leaves behind: a vault whose fields are fresh. -/
theorem Step.initialized {l : Label} (h : Step P m l m')
    (hcall : l.call = some (.initializeAccount, v)) :
    ∃ (inv : Invocation) (args : Initialize.Args) (bump : UInt8) (prepared : PreparedFalconPubkey)
      (a : HybridAccount), l = .executed inv ∧ Initialize.parse inv.payload = .ok args ∧
      prepareFalconKey P args.falconWirePubkey = .ok prepared ∧ VaultAt P m' v a ∧
      a.fields = HybridAccount.freshFields bump args.accountIndex args.ownerEd25519
        (P.sha256 args.falconWirePubkey) args.policy prepared := by
  obtain ⟨inv, creator, vault, args, bump, m₁, a, hs, hl, rfl, rfl⟩ := h.created_cases hcall
  obtain ⟨prepared, hprepared, hfields⟩ := hs.fields
  have hva := hs.creates.vaultAt hs.valid
  exact ⟨inv, args, bump, prepared, a, hl, hs.parsed, hprepared, hva, hfields⟩

/-- A successful `Initialize` leaves a vault that has consumed no nonce. -/
theorem Step.created {l : Label} (h : Step P m l m') (hwf : WellFormed P m)
    (hcall : l.call = some (.initializeAccount, v)) :
    IsVault P m' v ∧ ∃ a, VaultAt P m' v a ∧ a.fields.nonce = 0 := by
  obtain ⟨inv, args, bump, prepared, a, -, -, -, hva, hfields⟩ := h.initialized hcall
  refine ⟨⟨h.wellFormed hwf, a, hva⟩, a, hva, ?_⟩
  rw [hfields]
  rfl

/-! ### What a step does to a recovery config -/

/-- No other vault shares the recovery address of `v`: a derived address determines the
vault it was derived from. -/
def OwnRecoveryAddress (P : Platform) (v : Pubkey) : Prop :=
  ∀ w k bump bump', SocialRecovery.IsRecoveryAddress P v k bump →
    SocialRecovery.IsRecoveryAddress P w k bump' → w = v

theorem PerformsOn.recoveryConfigOf {op : VaultOp} {l : Label} (h : PerformsOn P m v op l m')
    (hno : op.touchesConfig = false) : recoveryConfigOf P m' v = recoveryConfigOf P m v := by
  cases h with
  | mk _ hkey _ h =>
    subst hkey
    exact h.recoveryConfigOf hno

theorem PerformsOn.guardianship {op : VaultOp} {l : Label} (h : PerformsOn P m v op l m') :
    guardianshipOf P m' v = op.onGuardianship (guardianshipOf P m v) := by
  cases h with
  | mk _ hkey _ h =>
    subst hkey
    exact h.guardianship

/-- **What one step does to a recovery config**: nothing, unless it performs an operation on
the vault. -/
theorem Step.config_cases {l : Label} (hown : OwnRecoveryAddress P v) (hwf : WellFormed P m)
    (h : Step P m l m') :
    recoveryConfigOf P m' v = recoveryConfigOf P m v ∨ ∃ op, PerformsOn P m v op l m' := by
  cases h with
  | @executed m' inv hruntime h =>
    have hout := process_outcome h
    cases hout with
    | harness _ _ => exact Or.inl rfl
    | @created creator vault _ _ _ _ _ hs =>
      have hc := hs.creates
      refine Or.inl (recoveryConfigOf_congr fun k bump _ => ?_)
      -- the new vault may sit at `k`: neither it nor the account before is a config
      by_cases hk : k = vault.key
      · rw [hk, configAt_vault hc.data]
        refine (configAt_eq_none fun howner => ?_).symm
        exact absurd (howner.symm.trans hc.system) P.programId_ne_system
      · obtain ⟨howner, hdata⟩ := hc.other k hk
        rw [configAt, howner, hdata]
        rfl
    | @performed vault op _ hp hix =>
      by_cases hkey : vault.key = v
      · exact Or.inr ⟨op, .mk hruntime hkey hix hp⟩
      · -- the other vault has another recovery address
        obtain ⟨_, _, he⟩ := hp.effect
        left
        refine hp.frame.recoveryConfigOf he fun k bump hk _ hother => ?_
        obtain ⟨bump', hother⟩ := hother
        exact hkey (hown vault.key k bump bump' hk hother)
  | rejected _ => exact Or.inl rfl
  | environment h _ =>
    refine Or.inl (recoveryConfigOf_congr fun k bump _ => ?_)
    -- a funded account of the program is kept; any other is or becomes blank
    by_cases hk : m.owner k = P.programId
    · rcases hwf k hk with hblank | ⟨hl, -⟩
      · rw [configAt_eq_none fun _ => configIn_blank hblank]
        refine configAt_eq_none fun howner => configIn_blank ?_
        rcases (h k).handed howner with ⟨-, hdata⟩ | hblank'
        · rw [show m'.data k = m.data k from hdata]
          exact hblank
        · exact hblank'
      · obtain ⟨howner, hdata, -⟩ := (h k).ours hk hl
        exact configAt_congr ⟨fun _ => hk, fun _ => howner⟩ fun _ => hdata
    · rw [configAt_eq_none (m := m) fun howner => absurd howner hk]
      refine configAt_eq_none fun howner => configIn_blank ?_
      rcases (h k).handed howner with ⟨hk', -⟩ | hblank
      · exact absurd hk' hk
      · exact hblank

end DualKey
