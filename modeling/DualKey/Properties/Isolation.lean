import DualKey.System.Locality
import DualKey.System.Replay

/-!
# Vault isolation

An instruction names one vault, whatever else is in its account list: another vault may stand
there as recipient, creator, payer or config. It nevertheless leaves every account of the program
alone but that vault and its recovery config, takes nothing from another vault and signs for
none.

Two instructions whose lists share no writable account commute. Each has a footprint: it reads
the accounts it lists and writes those it marks writable, so neither can disturb the other.
-/

namespace DualKey

open Transition

variable {P : Platform} {m m' : Machine} {inv a b : Invocation} {v : Pubkey}

/-! ### What an instruction leaves alone -/

/-- The vault the instruction names, if it names any, is `v`. -/
def Invocation.NamesOnly (inv : Invocation) (v : Pubkey) : Prop :=
  ∀ ix w, inv.call = some (ix, w) → w = v

/-- Besides the vault it names and the recovery config of that vault, an instruction changes no
account of the program. -/
theorem Step.frame (h : Step P m (.executed inv) m') (hnames : inv.NamesOnly v) {k : Pubkey}
    (hk : m.owner k = P.programId) (hv : k ≠ v)
    (hconfig : ∀ bump, ¬ SocialRecovery.IsRecoveryAddress P v k bump) :
    m'.owner k = P.programId ∧ m'.data k = m.data k := by
  cases h with
  | executed _ h =>
    cases process_outcome h with
    | harness _ _ => exact ⟨hk, rfl⟩
    | created hix hs =>
      obtain rfl := hnames _ _ (hs.call hix)
      obtain ⟨howner, hdata⟩ := hs.creates.other k hv
      exact ⟨howner.trans hk, hdata⟩
    | performed hp hix =>
      obtain rfl := hnames _ _ (hp.call hix)
      refine ⟨hp.frame.owner k hk, ?_⟩
      rcases hp.frame.data k hv hk with hsame | ⟨-, ⟨bump, haddress⟩, -⟩
      · exact hsame
      · exact absurd haddress (hconfig bump)

/-- Another vault keeps its data and what it holds, and is not signed for. -/
theorem Step.other_vault (hwf : WellFormed P m) (h : Step P m (.executed inv) m')
    (hnames : inv.NamesOnly v) {w : Pubkey} {c : HybridAccount} (hw : VaultAt P m w c)
    (hne : w ≠ v) : Quiet P m w (.executed inv) m' := by
  rcases h.vault_cases hwf hw with hquiet | ⟨op, hop⟩
  · exact hquiet
  · exact absurd (hnames _ _ hop.call) hne

/-- Nor does its recovery config change. -/
theorem Step.other_config (hwf : WellFormed P m) (h : Step P m (.executed inv) m')
    (hnames : inv.NamesOnly v) {w : Pubkey} (hown : OwnRecoveryAddress P w) (hne : w ≠ v) :
    recoveryConfigOf P m' w = recoveryConfigOf P m w := by
  rcases h.config_cases hown hwf with hsame | ⟨op, hop⟩
  · exact hsame
  · exact absurd (hnames _ _ hop.call) hne

/-! ### The footprint of an instruction -/

/-- What an instruction does to the account store. -/
def Invocation.onStore (P : Platform) (inv : Invocation) (accounts : Pubkey → Account) :
    Res DualKeyError (Pubkey → Account) :=
  match Processor.process P inv.accounts inv.data inv.enter { accounts, cpis := [] } with
  | .ok (_, m') => .ok m'.accounts
  | .error e => .error e

theorem Invocation.footprint (P : Platform) (inv : Invocation) :
    Footprint (inv.onStore P) (listed inv.accounts) (writable inv.accounts) where
  writes_subset := by
    rintro k ⟨info, hinfo, hkey, -⟩
    exact ⟨info, hinfo, hkey⟩
  agree s t h := by
    have hlocal := @Processor.local_process P inv.accounts inv.data inv.enter
      { accounts := s, cpis := [] } { accounts := t, cpis := [] } rfl h
    unfold onStore
    generalize Processor.process P inv.accounts inv.data inv.enter { accounts := s, cpis := [] } = x
      at hlocal ⊢
    generalize Processor.process P inv.accounts inv.data inv.enter { accounts := t, cpis := [] } = y
      at hlocal ⊢
    cases hlocal with
    | ok hrel => exact .ok hrel.2
    | error e => exact .error e
  frame s s' h := by
    unfold onStore at h
    split at h
    · next m' hprocess =>
      obtain rfl := Except.ok.inj h
      exact (process_outcome hprocess).writesOnly
    · cases h

/-- A submission runs the instruction on the store, or keeps the store. -/
theorem submit_post_accounts (m : Machine) (inv : Invocation) :
    (submit P m inv).post.accounts = runOrKeep (inv.onStore P) m.accounts := by
  unfold submit runOrKeep Invocation.onStore
  rw [show m.begin = { accounts := m.accounts, cpis := [] } from rfl]
  split <;> simp_all

theorem submit_label_eq (m : Machine) (inv : Invocation) :
    (submit P m inv).label =
      if (inv.onStore P m.accounts).isOk then .executed inv else .rejected inv := by
  unfold submit Invocation.onStore
  rw [show m.begin = { accounts := m.accounts, cpis := [] } from rfl]
  split <;> simp_all [Res.isOk]

/-- The lists share no writable account: what is in both is writable in neither, as the runtime
requires of instructions it runs side by side. -/
def ShareNoWritable (a b : Invocation) : Prop :=
  ∀ x ∈ a.accounts, ∀ y ∈ b.accounts, x.key = y.key → x.isWritable = false ∧ y.isWritable = false

instance (a b : Invocation) : Decidable (ShareNoWritable a b) :=
  inferInstanceAs (Decidable (∀ x ∈ a.accounts, ∀ y ∈ b.accounts,
    x.key = y.key → x.isWritable = false ∧ y.isWritable = false))

theorem ShareNoWritable.symm (h : ShareNoWritable a b) : ShareNoWritable b a :=
  fun x hx y hy hkey => And.symm (h y hy x hx hkey.symm)

/-- Neither list contains an account the other marks writable. -/
theorem ShareNoWritable.disjoint (h : ShareNoWritable a b) :
    Disjoint (writable a.accounts) (listed b.accounts) := by
  rw [Set.disjoint_left]
  rintro k ⟨x, hx, rfl, hwritable⟩ ⟨y, hy, hkey⟩
  exact Bool.false_ne_true ((h x hx y hy hkey.symm).1.symm.trans hwritable)

/-- An instruction succeeds or fails as it would without the other one before it. -/
theorem submit_label_after (h : ShareNoWritable a b) :
    (submit P (submit P m b).post a).label = (submit P m a).label := by
  rw [submit_label_eq, submit_label_eq, submit_post_accounts,
    ((a.footprint P).agree_after (b.footprint P) h.symm.disjoint m.accounts).isOk]

/-- The accounts both leave do not depend on their order. -/
theorem submit_commute (h : ShareNoWritable a b) :
    (submit P (submit P m a).post b).post.accounts =
      (submit P (submit P m b).post a).post.accounts := by
  rw [submit_post_accounts, submit_post_accounts, submit_post_accounts, submit_post_accounts]
  exact (a.footprint P).commute (b.footprint P) h.disjoint h.symm.disjoint m.accounts

/-- **Vault isolation.** In a reachable state, whatever an instruction on the vault `v` lists:
every account of the program but `v` and its recovery config keeps its data, every other vault
keeps what it holds, is not signed for and keeps its recovery config. And two instructions whose
lists share no writable account, submitted in either order, succeed or fail alike and leave the
same accounts. -/
theorem vault_isolation (P : Platform) :
    (∀ (m m' : Machine) (inv : Invocation) (v : Pubkey), Reachable (chain P) m →
      Step P m (.executed inv) m' → inv.NamesOnly v →
      (∀ k, m.owner k = P.programId → k ≠ v →
        (∀ bump, ¬ SocialRecovery.IsRecoveryAddress P v k bump) →
        m'.owner k = P.programId ∧ m'.data k = m.data k) ∧
      (∀ w c, VaultAt P m w c → w ≠ v →
        m'.data w = m.data w ∧ m.lamports w ≤ m'.lamports w ∧
        (∀ cpi ∈ m'.cpis, ∀ seeds ∈ cpi.signers,
          P.createProgramAddress seeds P.programId ≠ some w) ∧
        (OwnRecoveryAddress P w → recoveryConfigOf P m' w = recoveryConfigOf P m w))) ∧
    (∀ (m : Machine) (a b : Invocation), ShareNoWritable a b →
      (submit P (submit P m b).post a).label = (submit P m a).label ∧
      (submit P (submit P m a).post b).label = (submit P m b).label ∧
      (submit P (submit P m a).post b).post.accounts =
        (submit P (submit P m b).post a).post.accounts) := by
  refine ⟨?_, ?_⟩
  · intro m m' inv v hreach hstep hnames
    have hwf := Reachable.wellFormed hreach
    refine ⟨fun k hk hv hconfig => hstep.frame hnames hk hv hconfig, fun w c hw hne => ?_⟩
    have hquiet := hstep.other_vault hwf hnames hw hne
    exact ⟨hquiet.data, hquiet.lamports, hquiet.signers,
      fun hown => hstep.other_config hwf hnames hown hne⟩
  · intro m a b h
    exact ⟨submit_label_after h, submit_label_after h.symm, submit_commute h⟩

section Witness

open Sample

/-- Two vaults, one of them with a recovery config. -/
def twoVaults : Machine :=
  replayed platform genesis [createEd25519Vault, createPrivilegedVault, setConfig]

/-- Enabling recovery of one vault leaves the other alone, and may be swapped with a transfer
out of it: both succeed in either order, with the same accounts in the end. -/
theorem vault_isolation_twoVaults :
    (submit platform twoVaults enable).post.data privilegedVault =
        twoVaults.data privilegedVault ∧
      (submit platform (submit platform twoVaults spendPrivileged).post enable).label =
        .executed enable ∧
      (submit platform (submit platform twoVaults enable).post spendPrivileged).label =
        .executed spendPrivileged ∧
      (submit platform (submit platform twoVaults enable).post spendPrivileged).post.accounts =
        (submit platform (submit platform twoVaults spendPrivileged).post enable).post.accounts := by
  obtain ⟨hframe, hcommute⟩ := vault_isolation platform
  have hreach : Reachable (chain platform) twoVaults :=
    reachable_replayed genesis_init (by decide +kernel)
  have henable : (submit platform twoVaults enable).label.call =
      some (.recoverAccount, ed25519Vault) := by
    decide +kernel
  have hspend : (submit platform twoVaults spendPrivileged).label.call =
      some (.execute, privilegedVault) := by
    decide +kernel
  have hvault : ((recordOf platform twoVaults privilegedVault).map
      fun r => (r.policy, r.recovery)) = some (.falconForPrivileged, false) := by
    decide +kernel
  -- the record is evaluated; the vault it belongs to exists
  obtain ⟨c, hc, -⟩ := exists_vaultAt_of_settings hvault
  have hstep : Step platform twoVaults (.executed enable)
      (submit platform twoVaults enable).post := by
    have hruntime : enable.PrecompilesAccepted platform := by decide +kernel
    have := submit_step twoVaults hruntime
    rwa [(submit_executed henable).1] at this
  have hnames : enable.NamesOnly ed25519Vault := by
    intro ix w hcall
    rw [(submit_executed henable).2] at hcall
    cases hcall
    rfl
  obtain ⟨hdata, -⟩ := (hframe twoVaults _ enable ed25519Vault hreach hstep hnames).2
    privilegedVault c hc (by decide +kernel)
  obtain ⟨hfirst, hsecond, haccounts⟩ :=
    hcommute twoVaults enable spendPrivileged (by decide +kernel)
  exact ⟨hdata, hfirst.trans (submit_executed henable).1, hsecond.trans (submit_executed hspend).1,
    haccounts⟩

end Witness

end DualKey
