import DualKey.Foundations.Exec

/-!
# Computations that do not panic

`Res.Settles calls x` says how `x` may end: with a value, with one of its own error codes, or,
where `calls` holds, in the failure of a callee. A panic is none of them. It is `Res.Returns` with
the one way added in which a computation ends by the fault of another.

`Exec.Settles` is the same of a run from one environment and one state. There is one rule for
every construct. The rule of sequencing hands the run of the first part to the second, so what an
earlier check has established is there when a later access needs it, through the `*_eq_ok`
lemmas.
-/

namespace Res

variable {ε α β : Type} {calls : Prop}

/-- The computation ends without a panic, and fails for a callee only where `calls` holds. -/
inductive Settles (calls : Prop) : Res ε α → Prop where
  | ok (a : α) : Settles calls (.ok a)
  | fail (e : ε) : Settles calls (.error (.error e))
  | callee (h : calls) : Settles calls (.error .callee)

/-- A value or an error code is returned, or a callee has failed. -/
theorem Settles.returns_or_callee {x : Res ε α} (h : Settles calls x) :
    Returns x ∨ x = .error .callee ∧ calls := by
  cases h with
  | ok a => exact Or.inl (Or.inl ⟨a, rfl⟩)
  | fail e => exact Or.inl (Or.inr ⟨e, rfl⟩)
  | callee h => exact Or.inr ⟨rfl, h⟩

theorem Settles.mono {calls' : Prop} {x : Res ε α} (h : Settles calls x) (hc : calls → calls') :
    Settles calls' x := by
  cases h with
  | ok a => exact .ok a
  | fail e => exact .fail e
  | callee h => exact .callee (hc h)

end Res

namespace Exec

variable {ρ σ ε α β : Type} {calls : Prop} {r : ρ} {s : σ}

/-- The run from `r` and `s` ends without a panic. -/
def Settles (calls : Prop) (x : Exec ρ σ ε α) (r : ρ) (s : σ) : Prop := Res.Settles calls (x r s)

namespace Settles

theorem mono {calls' : Prop} {x : Exec ρ σ ε α} (h : Settles calls x r s) (hc : calls → calls') :
    Settles calls' x r s := Res.Settles.mono h hc

theorem pure (a : α) : Settles calls (Pure.pure a : Exec ρ σ ε α) r s := .ok _

/-- What follows may use how the first part has run. -/
theorem bind {x : Exec ρ σ ε α} {f : α → Exec ρ σ ε β} (hx : Settles calls x r s)
    (hf : ∀ a s', x r s = .ok (a, s') → Settles calls (f a) r s') :
    Settles calls (x >>= f) r s := by
  unfold Settles at hx ⊢
  generalize hrun : x r s = y at hx
  cases hx with
  | ok p =>
    obtain ⟨a, s'⟩ := p
    rw [Exec.bind_of_ok hrun]
    exact hf a s' hrun
  | fail e =>
    rw [Exec.bind_eq_error hrun]
    exact .fail e
  | callee h =>
    rw [Exec.bind_eq_error hrun]
    exact .callee h

theorem lift {x : Res ε α} (h : x.Returns) : Settles calls (liftM x : Exec ρ σ ε α) r s := by
  rcases h with ⟨a, rfl⟩ | ⟨e, rfl⟩
  · exact .ok _
  · exact Res.Settles.fail e

theorem fail (e : ε) : Settles calls (Exec.fail e : Exec ρ σ ε α) r s := Res.Settles.fail e

theorem failIf (c : Prop) [Decidable c] (e : ε) :
    Settles calls (Exec.failIf c e : Exec ρ σ ε Unit) r s := lift (Res.returns_failIf c e)

theorem okOr (o : Option α) (e : ε) : Settles calls (Exec.okOr o e : Exec ρ σ ε α) r s :=
  lift (Res.returns_okOr o e)

theorem gets (f : σ → α) : Settles calls (Exec.gets f : Exec ρ σ ε α) r s := .ok _

theorem modify (f : σ → σ) : Settles calls (Exec.modify f : Exec ρ σ ε Unit) r s := .ok _

/-! What follows a construct that writes nothing starts from the same state. -/

theorem ask_bind {f : ρ → Exec ρ σ ε β} (hf : Settles calls (f r) r s) :
    Settles calls (Exec.ask >>= f) r s := hf

theorem gets_bind {g : σ → α} {f : α → Exec ρ σ ε β} (hf : Settles calls (f (g s)) r s) :
    Settles calls (Exec.gets g >>= f) r s := hf

theorem lift_bind {x : Res ε α} {f : α → Exec ρ σ ε β} (hx : x.Returns)
    (hf : ∀ a, x = .ok a → Settles calls (f a) r s) :
    Settles calls ((liftM x : Exec ρ σ ε α) >>= f) r s := by
  refine bind (lift hx) fun a s' h => ?_
  obtain ⟨hok, rfl⟩ := Exec.liftM_eq_ok.mp h
  exact hf a hok

theorem failIf_bind {c : Prop} [Decidable c] {e : ε} {f : Unit → Exec ρ σ ε β}
    (hf : ¬ c → Settles calls (f ()) r s) : Settles calls (Exec.failIf c e >>= f) r s :=
  lift_bind (Res.returns_failIf c e) fun _ h => hf (Res.failIf_eq_ok.mp h)

theorem okOr_bind {o : Option α} {e : ε} {f : α → Exec ρ σ ε β}
    (hf : ∀ a, o = some a → Settles calls (f a) r s) :
    Settles calls (Exec.okOr o e >>= f) r s :=
  lift_bind (Res.returns_okOr o e) fun a h => hf a (Res.okOr_eq_ok.mp h)

theorem withEnv {f : ρ → ρ} {x : Exec ρ σ ε α} (h : Settles calls x (f r) s) :
    Settles calls (Exec.withEnv f x) r s := h

/-- The one construct that can panic. -/
theorem panicUnless {c : Prop} [Decidable c] (h : c) :
    Settles calls (Exec.panicUnless c : Exec ρ σ ε Unit) r s := by
  unfold Exec.panicUnless Res.panicUnless
  rw [if_pos h]
  exact .ok _

theorem calleeUnless (c : Prop) [Decidable c] (h : calls) :
    Settles calls (Exec.calleeUnless c : Exec ρ σ ε Unit) r s := by
  unfold Exec.calleeUnless Res.calleeUnless
  split
  · exact .ok _
  · exact Res.Settles.callee h

theorem callee (f : σ → Option σ) (h : calls) :
    Settles calls (Exec.callee f : Exec ρ σ ε Unit) r s := by
  unfold Settles Exec.callee
  cases f s with
  | some s' => exact .ok _
  | none => exact .callee h

theorem ite {c : Prop} [Decidable c] {x y : Exec ρ σ ε α} (hx : c → Settles calls x r s)
    (hy : ¬ c → Settles calls y r s) : Settles calls (if c then x else y) r s := by
  split
  · next h => exact hx h
  · next h => exact hy h

end Settles

end Exec
