import DualKey.System.Replay

/-!
# Nonce accounting

The nonce of a vault counts the operations that were performed on it. `Step.nonce` says
what one step does: eight instructions raise the nonce by one, a guardian's proposal and
the verification harness leave it alone, and no step wraps it. Counting over a run
(`Run.countP`) gives the nonce at its end.

Replay freedom is a corollary. An intent is authorized under the nonce the vault stores,
the step that uses it raises the nonce, and the nonce never falls again, so no later step
is authorized for the same vault and nonce. The canonical preimage determines both, so it
authorizes at most one step of a run, whatever instruction, vault, policy or key the
copy is submitted under.
-/

namespace DualKey

open Transition

/-- The instructions that consume a nonce. -/
def DualKeyInstruction.consumesNonce : DualKeyInstruction → Bool
  | execute => true
  | rotateEd25519Key => true
  | rotateFalconKey => true
  | changePolicy => true
  | recoverAccount => true
  | setRecoveryConfig => true
  | finalizeSocialRecovery => true
  | cancelSocialRecovery => true
  | _ => false

/-- The step is a successful call on `v` of an instruction that consumes a nonce. -/
def Label.consumesNonceOf (l : Label) (v : Pubkey) : Bool :=
  match l.call with
  | some (ix, k) => ix.consumesNonce && decide (k = v)
  | none => false

/-- The nonce the account at `v` stores. -/
def nonceOf (m : Machine) (v : Pubkey) : ℕ :=
  match HybridAccount.nonceFromSlice (m.data v) with
  | .ok nonce => nonce.toNat
  | .error _ => 0

variable {P : Platform} {m m' : Machine} {v : Pubkey} {a : HybridAccount} {l : Label}

theorem nonceOf_eq (hv : VaultAt P m v a) : nonceOf m v = a.fields.nonce.toNat := by
  rw [nonceOf, hv.data, HybridAccount.nonceFromSlice_data]

theorem VaultOp.consumesNonce_instruction (op : VaultOp) :
    op.instruction.consumesNonce = op.consumesNonce := by
  cases op <;> rfl

theorem Label.consumesNonceOf_of_call {ix : DualKeyInstruction} (h : l.call = some (ix, v)) :
    l.consumesNonceOf v = ix.consumesNonce := by
  rw [Label.consumesNonceOf, h]
  simp only [decide_true, Bool.and_true]

theorem Label.consumesNonceOf_of_not_call (h : ∀ ix, l.call ≠ some (ix, v)) :
    l.consumesNonceOf v = false := by
  unfold Label.consumesNonceOf
  split
  · next ix k hcall =>
    have hne : k ≠ v := fun heq => h ix (by rw [hcall, heq])
    rw [decide_eq_false hne, Bool.and_false]
  · rfl

theorem PerformsOn.consumesNonceOf {op : VaultOp} (h : PerformsOn P m v op l m') :
    l.consumesNonceOf v = op.consumesNonce := by
  rw [Label.consumesNonceOf_of_call h.call, op.consumesNonce_instruction]

/-! ### Counting -/

/-- **What one step does to the nonce.** -/
theorem Step.nonce (h : Step P m l m') (hv : IsVault P m v) :
    nonceOf m' v = nonceOf m v + (if l.consumesNonceOf v then 1 else 0) := by
  obtain ⟨hwf, a, hva⟩ := hv
  obtain ⟨a', hva', hstep⟩ := h.vaultAt hwf hva
  rw [nonceOf_eq hva, nonceOf_eq hva']
  rcases hstep with ⟨hquiet, rfl⟩ | ⟨op, hop, heffect⟩
  · -- a quiet step is no call on the vault
    have hcount : l.consumesNonceOf v = false := Label.consumesNonceOf_of_not_call hquiet.call
    rw [hcount, if_neg Bool.false_ne_true, Nat.add_zero]
  · have hcount : l.consumesNonceOf v = op.consumesNonce := hop.consumesNonceOf
    rw [hcount]
    by_cases hconsumes : op.consumesNonce = true
    · rw [if_pos hconsumes]
      exact (heffect.nonce hconsumes).symm
    · rw [if_neg hconsumes, Nat.add_zero, heffect.fields, op.onFields_nonce, if_neg hconsumes]

/-- The nonce has grown by the number of steps that consume one. -/
theorem Run.nonce {tr : List (Edge Machine Label)} (h : Run (chain P) m tr m')
    (hv : IsVault P m v) :
    nonceOf m' v = nonceOf m v + tr.countP fun e => e.label.consumesNonceOf v := by
  have hvault : ∀ e ∈ tr, IsVault P e.pre v ∧ IsVault P e.post v :=
    h.invariant_mem (I := fun s => IsVault P s v) hv fun _ _ hstep => Step.isVault hstep
  refine h.countP (c := fun s => nonceOf s v) ?_
  intro e he hstep
  exact Step.nonce hstep (hvault e he).1

theorem Run.isVault {tr : List (Edge Machine Label)} (h : Run (chain P) m tr m')
    (hv : IsVault P m v) : IsVault P m' v :=
  h.invariant (I := fun s => IsVault P s v) hv fun _ _ hstep => Step.isVault hstep

/-! ### Intents -/

/-- The step succeeded because the program authorized `intent`: it rebuilt the intent from
the vault and the payload, and its two signature checks ran over that intent. -/
inductive AuthorizedBy (P : Platform) (intent : AuthorizationIntent) : Edge Machine Label → Prop
  where
  | mk {m m' : Machine} {inv : Invocation} {vault sysvar : AccountInfo} {op : VaultOp}
    {wire : ExecuteIntentWire} {falconSig : List UInt8} {a : HybridAccount} {auth : Authorization}
    (hperforms : PerformsOn P m vault.key op (.executed inv) m')
    (hpresents : Presents inv.payload wire falconSig) (hsigns : op.Signs wire.action)
    (hauth : Authorized P inv m.begin vault sysvar wire falconSig a auth)
    (hintent : intent = reconstructIntent
      { chainDomain := P.chainDomain, programId := P.programId, account := vault.key,
        nonce := a.fields.nonce } wire) :
    AuthorizedBy P intent ⟨m, .executed inv, m'⟩

/-- Every operation an owner signs is authorized by an intent for its vault. -/
theorem PerformsOn.authorizedBy {op : VaultOp} (h : PerformsOn P m v op l m')
    (hsigned : op.isSigned = true) :
    ∃ intent, AuthorizedBy P intent ⟨m, l, m'⟩ ∧ intent.account = v := by
  cases h with
  | @mk inv vault m' hruntime hkey hix hperforms =>
    subst hkey
    obtain ⟨wire, falconSig, sysvar, a, auth, hpresents, hsigns, hauth⟩ :=
      hperforms.authorized hsigned
    exact ⟨_, .mk (.mk hruntime rfl hix hperforms) hpresents hsigns hauth rfl, rfl⟩

/-- An operation is authorized by the intent its payload and the vault's nonce make up. -/
theorem PerformsOn.authorizedBy_of_presents {op : VaultOp} {inv : Invocation} {a : HybridAccount}
    {wire : ExecuteIntentWire} {falconSig : List UInt8}
    (h : PerformsOn P m v op (.executed inv) m') (hsigned : op.isSigned = true)
    (hdata : m.data v = a.data) (hpresents : Presents inv.payload wire falconSig) :
    AuthorizedBy P (reconstructIntent
      { chainDomain := P.chainDomain, programId := P.programId, account := v,
        nonce := a.fields.nonce } wire) ⟨m, .executed inv, m'⟩ := by
  cases h with
  | @mk inv vault m' hruntime hkey hix hperforms =>
    subst hkey
    obtain ⟨wire', falconSig', sysvar, b, auth, hpresents', hsigns, hauth⟩ :=
      hperforms.authorized hsigned
    have hwire : wire' = wire := Except.ok.inj (hpresents'.wire.symm.trans hpresents.wire)
    have hsame : b = a := HybridAccount.data_injective (hauth.data.symm.trans hdata)
    rw [hwire] at hsigns hpresents' hauth
    rw [hsame] at hauth
    exact .mk (.mk hruntime rfl hix hperforms) hpresents' hsigns hauth rfl

/-- A step that an intent authorizes starts at the nonce of the intent and consumes it. -/
theorem AuthorizedBy.nonce {intent : AuthorizationIntent} {e : Edge Machine Label}
    (hwf : WellFormed P e.pre) (h : AuthorizedBy P intent e) :
    nonceOf e.pre intent.account = intent.nonce.toNat ∧
      IsVault P e.pre intent.account ∧ e.label.consumesNonceOf intent.account = true := by
  cases h with
  | @mk m m' inv vault sysvar op wire falconSig a auth hperforms hpresents hsigns hauth hintent =>
    subst hintent
    have hva : VaultAt P m vault.key a := ⟨hauth.owner, hauth.data, hauth.version⟩
    refine ⟨nonceOf_eq hva, ⟨hwf, a, hva⟩, ?_⟩
    have hconsumes : op.consumesNonce = true := by
      cases op with
      | initiate k ready => exact hsigns.elim
      | _ => rfl
    exact hperforms.consumesNonceOf.trans hconsumes

/-- Two steps of a run are never authorized for one vault and one nonce. -/
theorem Run.authorized_once {tr : List (Edge Machine Label)} (hwf : WellFormed P m)
    (h : Run (chain P) m tr m') :
    tr.Pairwise fun e e' => ∀ i i', AuthorizedBy P i e → AuthorizedBy P i' e' →
      (i.account, i.nonce) ≠ (i'.account, i'.nonce) := by
  refine h.pairwise (I := WellFormed P) hwf (fun e _ hstep => Step.wellFormed hstep) ?_
  intro e e' tr₁ hwf₁ hstep hbetween hstep' i i' hi hi' heq
  obtain ⟨haccount, hnonce⟩ := Prod.mk.inj heq
  obtain ⟨hpre, hvault, hconsumes⟩ := hi.nonce hwf₁
  -- the first step leaves the successor of the nonce behind
  have hpost : nonceOf e.post i.account = i.nonce.toNat + 1 := by
    rw [Step.nonce hstep hvault, hpre, if_pos hconsumes]
  have hvault' : IsVault P e.post i.account := Step.isVault hstep hvault
  have hwf' : WellFormed P e'.pre := (Run.isVault hbetween hvault').1
  have hpre' : nonceOf e'.pre i'.account = i'.nonce.toNat := (hi'.nonce hwf').1
  -- and the nonce does not fall until the second
  have hlt : i.nonce.toNat < i.nonce.toNat :=
    calc i.nonce.toNat
        < nonceOf e.post i.account := by rw [hpost]; exact Nat.lt_succ_self _
      _ ≤ nonceOf e'.pre i.account := by
          rw [Run.nonce hbetween hvault']
          exact Nat.le_add_right _ _
      _ = i.nonce.toNat := by rw [haccount, hpre', hnonce]
  exact absurd hlt (Nat.lt_irrefl _)

/-- **Nonce accounting and replay freedom.** In every run that starts with the `Initialize`
of the vault at `v`:
the vault is there at the end and its nonce is the number of successful calls that consume
one, each of them raised it by one and no other step changed it; the vault is never
initialized again; no two steps are authorized by intents with one preimage; and no two
are authorized by intents for one vault and one nonce. -/
theorem nonce_accounting {m₀ : Machine} {tr : List (Edge Machine Label)}
    (hreach : Reachable (chain P) m₀) (hinit : Step P m₀ l m)
    (hcall : l.call = some (.initializeAccount, v)) (hrun : Run (chain P) m tr m') :
    (∃ a, VaultAt P m' v a ∧
      a.fields.nonce.toNat = tr.countP fun e => e.label.consumesNonceOf v) ∧
    (∀ e ∈ tr, ∃ b b', VaultAt P e.pre v b ∧ VaultAt P e.post v b' ∧
      b'.fields.nonce.toNat =
        b.fields.nonce.toNat + if e.label.consumesNonceOf v then 1 else 0) ∧
    (∀ e ∈ tr, e.label.call ≠ some (.initializeAccount, v)) ∧
    (tr.Pairwise fun e e' => ∀ i i', AuthorizedBy P i e → AuthorizedBy P i' e' →
      canonicalPreimage i ≠ canonicalPreimage i') ∧
    tr.Pairwise fun e e' => ∀ i i', AuthorizedBy P i e → AuthorizedBy P i' e' →
      (i.account, i.nonce) ≠ (i'.account, i'.nonce) := by
  have hwf₀ : WellFormed P m₀ := Reachable.wellFormed hreach
  obtain ⟨hvault, a₀, hva₀, hzero⟩ := hinit.created hwf₀ hcall
  -- `Initialize` leaves a vault with nonce zero, and it stays one
  have hinv : ∀ e ∈ tr, IsVault P e.pre v ∧ IsVault P e.post v :=
    hrun.invariant_mem (I := fun s => IsVault P s v) hvault fun e _ hstep => Step.isVault hstep
  have honce := Run.authorized_once hvault.1 hrun
  refine ⟨?_, ?_, ?_, ?_, honce⟩
  · obtain ⟨-, a, hva⟩ := Run.isVault hrun hvault
    refine ⟨a, hva, ?_⟩
    have hcount := Run.nonce hrun hvault
    rw [nonceOf_eq hva, nonceOf_eq hva₀, hzero] at hcount
    rw [hcount]
    exact Nat.zero_add _
  · intro e he
    have hstep := hrun.step he
    obtain ⟨⟨-, b, hb⟩, ⟨-, b', hb'⟩⟩ := hinv e he
    refine ⟨b, b', hb, hb', ?_⟩
    rw [← nonceOf_eq hb, ← nonceOf_eq hb']
    exact Step.nonce hstep (hinv e he).1
  · intro e he
    have hstep := hrun.step he
    exact Step.call_ne_initialize hstep (hinv e he).1
  · -- the preimage determines vault and nonce
    refine honce.imp ?_
    intro e e' hne i i' hi hi' heq
    obtain ⟨haccount, hnonce⟩ := canonicalPreimage_account_nonce heq
    exact hne i i' hi hi' (by rw [haccount, hnonce])

open Sample in
/-- Configuring, enabling and finalizing a recovery consumes three nonces; the proposal in
between consumes none. -/
theorem nonce_accounting_replayed :
    ∃ a, VaultAt platform (replayed platform ed25519Created [setConfig, enable, propose, finalize])
        ed25519Vault a ∧ a.fields.nonce.toNat = 3 := by
  have hinit : Step platform genesis (submit platform genesis createEd25519Vault).label
      ed25519Created := submit_step _ (by decide +kernel)
  have hcall : (submit platform genesis createEd25519Vault).label.call =
      some (.initializeAccount, ed25519Vault) := by
    decide +kernel
  have hruntime : ∀ inv ∈ [setConfig, enable, propose, finalize],
      inv.PrecompilesAccepted platform := by
    decide +kernel
  have hrun := run_replay ed25519Created hruntime
  have hcount : (replay platform ed25519Created [setConfig, enable, propose, finalize]).countP
      (fun e => e.label.consumesNonceOf ed25519Vault) = 3 := by
    decide +kernel
  obtain ⟨⟨a, hv, hnonce⟩, -⟩ :=
    nonce_accounting (Reachable.of_init genesis_init) hinit hcall hrun
  exact ⟨a, hv, hnonce.trans hcount⟩

end DualKey
