import DualKey.Foundations.Exec
import Mathlib.Data.Set.Function
import Mathlib.Data.Set.Lattice
import Mathlib.Order.CompletePartialOrder

/-!
# Footprints

A computation that reads and writes only part of a store has a *footprint*. Two facts make
footprints useful, and this file provides the rules for both.

* `Exec.Respects I R x`: in environments of `I`, from two states related by `R`, the
  computation `x` has one outcome, with states related by `R` again. With `R` the agreement of
  two stores on a set of keys this says that `x` reads nothing outside the set. There is one
  rule for every construct, so a program is taken apart along its text.
* `Footprint f reads writes`: a partial function on stores that is decided by the keys of
  `reads` and changes no key outside `writes`. Where neither of two such functions writes what
  the other reads, they commute (`Footprint.commute`): each has the outcome it would have
  alone, and the store they leave does not depend on their order.
-/

namespace Res

variable {ε α β : Type}

/-- Both computations fail with one fault, or both return, with related values. -/
inductive Rel (R : α → β → Prop) : Res ε α → Res ε β → Prop where
  | ok {a : α} {b : β} (h : R a b) : Rel R (.ok a) (.ok b)
  | error (e : Fault ε) : Rel R (.error e) (.error e)

/-- The two ways to be related, as equations. -/
theorem Rel.ok_or_error {R : α → β → Prop} {x : Res ε α} {y : Res ε β} (h : Rel R x y) :
    (∃ a b, x = .ok a ∧ y = .ok b ∧ R a b) ∨ ∃ e, x = .error e ∧ y = .error e := by
  cases h with
  | ok h => exact Or.inl ⟨_, _, rfl, rfl, h⟩
  | error e => exact Or.inr ⟨e, rfl, rfl⟩

theorem Rel.isOk {R : α → β → Prop} {x : Res ε α} {y : Res ε β} (h : Rel R x y) :
    x.isOk = y.isOk := by
  cases h <;> rfl

end Res

/-- Two computations that start alike are related when they go on alike. -/
theorem Option.rel_bind {α β : Type} {R : β → β → Prop} (x : Option α) {f g : α → Option β}
    (h : ∀ a, Option.Rel R (f a) (g a)) : Option.Rel R (x >>= f) (x >>= g) := by
  cases x with
  | some a => exact h a
  | none => exact .none

namespace Exec

variable {ρ σ ε α β : Type} {I : ρ → Prop} {R : σ → σ → Prop}

/-- From related states the computation has one outcome, with related states. -/
def Respects (I : ρ → Prop) (R : σ → σ → Prop) (x : Exec ρ σ ε α) : Prop :=
  ∀ r s t, I r → R s t →
    Res.Rel (fun p q : α × σ => p.1 = q.1 ∧ R p.2 q.2) (x r s) (x r t)

namespace Respects

theorem pure (a : α) : Respects I R (Pure.pure a : Exec ρ σ ε α) :=
  fun _ _ _ _ h => .ok ⟨rfl, h⟩

theorem bind {x : Exec ρ σ ε α} {f : α → Exec ρ σ ε β} (hx : Respects I R x)
    (hf : ∀ a, Respects I R (f a)) : Respects I R (x >>= f) := by
  intro r s t hr h
  obtain ⟨⟨a, s'⟩, ⟨b, t'⟩, hs, ht, hrel⟩ | ⟨e, hs, ht⟩ := (hx r s t hr h).ok_or_error
  · obtain ⟨rfl, h'⟩ := hrel
    rw [Exec.bind_of_ok hs, Exec.bind_of_ok ht]
    exact hf a r s' t' hr h'
  · rw [Exec.bind_eq_error hs, Exec.bind_eq_error ht]
    exact .error e

/-- A pure computation looks at no state. -/
theorem liftRes (x : Res ε α) : Respects I R (Exec.liftRes x : Exec ρ σ ε α) := by
  intro r s t _ h
  cases x with
  | ok a => exact .ok ⟨rfl, h⟩
  | error e => exact .error e

theorem fail (e : ε) : Respects I R (Exec.fail e : Exec ρ σ ε α) := liftRes _

theorem failIf (c : Prop) [Decidable c] (e : ε) :
    Respects I R (Exec.failIf c e : Exec ρ σ ε Unit) := liftRes _

theorem panicUnless (c : Prop) [Decidable c] :
    Respects I R (Exec.panicUnless c : Exec ρ σ ε Unit) := liftRes _

theorem okOr (o : Option α) (e : ε) : Respects I R (Exec.okOr o e : Exec ρ σ ε α) := liftRes _

theorem lift (x : Res ε α) : Respects I R (liftM x : Exec ρ σ ε α) := liftRes x

/-- What follows a pure computation may use that it returned. -/
theorem liftM_bind {x : Res ε α} {f : α → Exec ρ σ ε β}
    (hf : ∀ a, x = .ok a → Respects I R (f a)) :
    Respects I R ((liftM x : Exec ρ σ ε α) >>= f) := by
  cases x with
  | ok a => exact hf a rfl
  | error e => exact fun _ _ _ _ _ => .error e

/-- The same for an optional value. -/
theorem okOr_bind {o : Option α} {e : ε} {f : α → Exec ρ σ ε β}
    (hf : ∀ a, o = some a → Respects I R (f a)) : Respects I R (Exec.okOr o e >>= f) := by
  cases o with
  | some a => exact hf a rfl
  | none => exact fun _ _ _ _ _ => .error _

/-- What follows a check may use that it passed. -/
theorem calleeUnless_bind {c : Prop} [Decidable c] {f : Unit → Exec ρ σ ε β}
    (hf : c → Respects I R (f ())) : Respects I R (Exec.calleeUnless c >>= f) := by
  by_cases h : c
  · have hpass : (Exec.calleeUnless c : Exec ρ σ ε Unit) = Pure.pure () := by
      unfold Exec.calleeUnless Res.calleeUnless
      rw [if_pos h]
      rfl
    rw [hpass, Exec.pure_bind]
    exact hf h
  · intro r s t _ _
    have hfault (u : σ) : (Exec.calleeUnless c : Exec ρ σ ε Unit) r u = .error .callee := by
      unfold Exec.calleeUnless Res.calleeUnless
      rw [if_neg h]
      rfl
    rw [Exec.bind_eq_error (hfault s), Exec.bind_eq_error (hfault t)]
    exact .error _

theorem ask : Respects I R (Exec.ask : Exec ρ σ ε ρ) := fun _ _ _ _ h => .ok ⟨rfl, h⟩

/-- What follows may use that the environment is one of `I`. -/
theorem ask_bind {f : ρ → Exec ρ σ ε β} (hf : ∀ r, I r → Respects I R (f r)) :
    Respects I R (Exec.ask >>= f) :=
  fun r s t hr h => hf r hr r s t hr h

theorem gets {f : σ → α} (hf : ∀ s t, R s t → f s = f t) :
    Respects I R (Exec.gets f : Exec ρ σ ε α) :=
  fun _ s t _ h => by
    rw [Exec.gets, Exec.gets, hf s t h]
    exact .ok ⟨rfl, h⟩

theorem modify {f : σ → σ} (hf : ∀ s t, R s t → R (f s) (f t)) :
    Respects I R (Exec.modify f : Exec ρ σ ε Unit) :=
  fun _ s t _ h => .ok ⟨rfl, hf s t h⟩

theorem callee {f : σ → Option σ} (hf : ∀ s t, R s t → Option.Rel R (f s) (f t)) :
    Respects I R (Exec.callee f : Exec ρ σ ε Unit) := by
  intro r s t _ h
  have hcall := hf s t h
  unfold Exec.callee
  generalize f s = y at hcall ⊢
  generalize f t = z at hcall ⊢
  cases hcall with
  | some h' => exact .ok ⟨rfl, h'⟩
  | none => exact .error _

theorem withEnv {f : ρ → ρ} {x : Exec ρ σ ε α} (hf : ∀ r, I r → I (f r)) (hx : Respects I R x) :
    Respects I R (Exec.withEnv f x) :=
  fun r s t hr h => hx (f r) s t (hf r hr) h

theorem ite {c : Prop} [Decidable c] {x y : Exec ρ σ ε α} (hx : Respects I R x)
    (hy : Respects I R y) : Respects I R (if c then x else y) := by
  split
  · exact hx
  · exact hy

end Respects

end Exec

/-! ### Stores -/

section Stores

variable {κ α ε : Type} {f g : (κ → α) → Res ε (κ → α)} {s t : κ → α} {R₁ R₂ W₁ W₂ : Set κ}

/-- A partial function on stores that is decided by the keys of `reads` and writes only keys
of `writes`. -/
structure Footprint (f : (κ → α) → Res ε (κ → α)) (reads writes : Set κ) : Prop where
  /-- What is written counts as read: a key may be left as it is. -/
  writes_subset : writes ⊆ reads
  agree : ∀ s t, Set.EqOn s t reads → Res.Rel (fun s' t' => Set.EqOn s' t' reads) (f s) (f t)
  frame : ∀ s s', f s = .ok s' → Set.EqOn s' s writesᶜ

/-- Run a partial function, and leave the store alone where it fails. -/
def runOrKeep (f : (κ → α) → Res ε (κ → α)) (s : κ → α) : κ → α :=
  match f s with
  | .ok s' => s'
  | .error _ => s

namespace Footprint

theorem runOrKeep_eqOn_compl (hf : Footprint f R₁ W₁) (s : κ → α) :
    Set.EqOn (runOrKeep f s) s W₁ᶜ := by
  unfold runOrKeep
  split
  · next s' h => exact hf.frame s s' h
  · exact Set.eqOn_refl s _

theorem runOrKeep_eqOn (hf : Footprint f R₁ W₁) (h : Set.EqOn s t R₁) :
    Set.EqOn (runOrKeep f s) (runOrKeep f t) R₁ := by
  unfold runOrKeep
  obtain ⟨s', t', hs, ht, h'⟩ | ⟨e, hs, ht⟩ := (hf.agree s t h).ok_or_error
  · rw [hs, ht]
    exact h'
  · rw [hs, ht]
    exact h

/-- A function that writes nothing `f` reads leaves the outcome of `f` as it is. -/
theorem agree_after (hf : Footprint f R₁ W₁) (hg : Footprint g R₂ W₂) (hd : Disjoint W₂ R₁)
    (s : κ → α) :
    Res.Rel (fun s' t' => Set.EqOn s' t' R₁) (f (runOrKeep g s)) (f s) :=
  hf.agree _ _ ((hg.runOrKeep_eqOn_compl s).mono hd.subset_compl_left)

/-- Where neither writes what the other reads, the order of the two does not matter. -/
theorem commute (hf : Footprint f R₁ W₁) (hg : Footprint g R₂ W₂) (h₁ : Disjoint W₁ R₂)
    (h₂ : Disjoint W₂ R₁) (s : κ → α) :
    runOrKeep g (runOrKeep f s) = runOrKeep f (runOrKeep g s) := by
  -- neither is disturbed by the other
  have hfirst : Set.EqOn (runOrKeep f (runOrKeep g s)) (runOrKeep f s) R₁ :=
    hf.runOrKeep_eqOn ((hg.runOrKeep_eqOn_compl s).mono h₂.subset_compl_left)
  have hsecond : Set.EqOn (runOrKeep g (runOrKeep f s)) (runOrKeep g s) R₂ :=
    hg.runOrKeep_eqOn ((hf.runOrKeep_eqOn_compl s).mono h₁.subset_compl_left)
  funext k
  by_cases hk : k ∈ W₁
  · -- a key the first one writes
    have hk₂ : k ∈ W₂ᶜ := fun h => h₂.notMem_of_mem_left h (hf.writes_subset hk)
    calc runOrKeep g (runOrKeep f s) k
        = runOrKeep f s k := hg.runOrKeep_eqOn_compl _ hk₂
      _ = runOrKeep f (runOrKeep g s) k := (hfirst (hf.writes_subset hk)).symm
  · have hleft : runOrKeep f (runOrKeep g s) k = runOrKeep g s k :=
      hf.runOrKeep_eqOn_compl _ hk
    rw [hleft]
    by_cases hk₂ : k ∈ W₂
    · exact hsecond (hg.writes_subset hk₂)
    · -- a key neither writes
      calc runOrKeep g (runOrKeep f s) k
          = runOrKeep f s k := hg.runOrKeep_eqOn_compl _ hk₂
        _ = s k := hf.runOrKeep_eqOn_compl _ hk
        _ = runOrKeep g s k := (hg.runOrKeep_eqOn_compl _ hk₂).symm

end Footprint

end Stores
