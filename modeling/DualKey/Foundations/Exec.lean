import Mathlib.Logic.Basic

/-!
# Computations that can fail, panic, or be aborted by a callee

A handler of an on-chain program reads a fixed environment, updates a state, and
ends in one of four ways: it returns a value, it returns one of its own error
codes, it panics, or a program it called fails and the runtime aborts the whole
transaction. `Res ε α` is the pure outcome (with error codes `ε`), and
`Exec ρ σ ε α` adds an environment `ρ` and a state `σ`. In every outcome but the
first the state is lost, which is the runtime's rollback.

The rules of this file are the `*_eq_ok` lemmas: each construct of a handler
returns a value exactly when the listed conditions hold. Unfolding a handler and
rewriting with them turns "the handler succeeded" into the conjunction of the
checks it made and the state it left, so both directions of a specification come
from one rewrite.
-/

/-- Why a computation returned no value: its own error code, a panic, or the
failure of a callee (which the runtime reports in place of the caller's error). -/
inductive Fault (ε : Type) where
  | error (e : ε)
  | panic
  | callee
deriving DecidableEq, Repr

/-- A pure computation with error codes `ε`. -/
abbrev Res (ε α : Type) := Except (Fault ε) α

namespace Res

variable {ε α β : Type}

/-- Return the error code `e` (`return Err(e)`). -/
def fail (e : ε) : Res ε α := .error (.error e)

/-- Return the error code `e` when `c` holds (`if c { return Err(e) }`). -/
def failIf (c : Prop) [Decidable c] (e : ε) : Res ε Unit :=
  if c then fail e else .ok ()

/-- Panic unless `c` holds (`assert!`, and the bound checks of indexing). -/
def panicUnless (c : Prop) [Decidable c] : Res ε Unit :=
  if c then .ok () else .error .panic

/-- Abort as a failed callee unless `c` holds. -/
def calleeUnless (c : Prop) [Decidable c] : Res ε Unit :=
  if c then .ok () else .error .callee

/-- The value of an optional result, or the error code `e` (`ok_or(e)?`). -/
def okOr (o : Option α) (e : ε) : Res ε α :=
  match o with
  | some a => .ok a
  | none => fail e

/-- Whether a computation returned a value (`is_ok`). -/
def isOk (x : Res ε α) : Bool :=
  match x with
  | .ok _ => true
  | .error _ => false

/-- Whether a computation returned a value or an error code (`is_ok()`); panics and
aborts go through. -/
def attempt (x : Res ε α) : Res ε Bool :=
  match x with
  | .ok _ => .ok true
  | .error (.error _) => .ok false
  | .error .panic => .error .panic
  | .error .callee => .error .callee

/-- The computation returns a value or an error code: it neither panics nor aborts. -/
def Returns (x : Res ε α) : Prop := (∃ a, x = .ok a) ∨ ∃ e, x = fail e

theorem ok_bind (a : α) (f : α → Res ε β) : (.ok a : Res ε α) >>= f = f a := rfl

@[simp] theorem bind_eq_ok {x : Res ε α} {f : α → Res ε β} {b : β} :
    (x >>= f) = .ok b ↔ ∃ a, x = .ok a ∧ f a = .ok b := by
  cases x with
  | ok a =>
    constructor
    · intro h
      exact ⟨a, rfl, h⟩
    · rintro ⟨a', ha, h⟩
      cases ha
      exact h
  | error e =>
    constructor
    · intro h
      cases h
    · rintro ⟨a', ha, -⟩
      cases ha

@[simp] theorem pure_eq_ok {a b : α} : (pure a : Res ε α) = .ok b ↔ a = b := by
  constructor
  · intro h
    cases h
    rfl
  · rintro rfl
    rfl

@[simp] theorem map_eq_ok {x : Res ε α} {f : α → β} {b : β} :
    (f <$> x) = .ok b ↔ ∃ a, x = .ok a ∧ f a = b := by
  cases x with
  | ok a =>
    show Except.ok (f a) = Except.ok b ↔ _
    simp
  | error e =>
    constructor
    · intro h
      cases h
    · rintro ⟨a, ha, -⟩
      cases ha

@[simp] theorem fail_ne_ok {e : ε} {a : α} : (fail e : Res ε α) ≠ .ok a := by
  intro h
  cases h

@[simp] theorem failIf_eq_ok {c : Prop} [Decidable c] {e : ε} {u : Unit} :
    failIf c e = .ok u ↔ ¬ c := by
  unfold failIf
  split <;> simp_all

@[simp] theorem panicUnless_eq_ok {c : Prop} [Decidable c] {u : Unit} :
    (panicUnless c : Res ε Unit) = .ok u ↔ c := by
  unfold panicUnless
  split <;> simp_all

@[simp] theorem calleeUnless_eq_ok {c : Prop} [Decidable c] {u : Unit} :
    (calleeUnless c : Res ε Unit) = .ok u ↔ c := by
  unfold calleeUnless
  split <;> simp_all

@[simp] theorem okOr_eq_ok {o : Option α} {e : ε} {a : α} : okOr o e = .ok a ↔ o = some a := by
  cases o <;> simp [okOr]

theorem isOk_iff {x : Res ε α} : x.isOk = true ↔ ∃ a, x = .ok a := by
  cases x <;> simp [isOk]

/-! ### Computations that return -/

@[simp] theorem attempt_ok (a : α) : attempt (.ok a : Res ε α) = .ok true := rfl

@[simp] theorem attempt_fail (e : ε) : (fail e : Res ε α).attempt = .ok false := rfl

theorem Returns.bind {x : Res ε α} {f : α → Res ε β} (hx : Returns x)
    (hf : ∀ a, x = .ok a → Returns (f a)) : Returns (x >>= f) := by
  rcases hx with ⟨a, rfl⟩ | ⟨e, rfl⟩
  · exact hf a rfl
  · exact Or.inr ⟨e, rfl⟩

theorem returns_ok (a : α) : Returns (.ok a : Res ε α) := Or.inl ⟨a, rfl⟩

theorem returns_fail (e : ε) : Returns (fail e : Res ε α) := Or.inr ⟨e, rfl⟩

theorem returns_failIf (c : Prop) [Decidable c] (e : ε) : Returns (failIf c e) := by
  unfold failIf
  split
  · exact Or.inr ⟨e, rfl⟩
  · exact Or.inl ⟨(), rfl⟩

theorem returns_okOr (o : Option α) (e : ε) : Returns (okOr o e) := by
  cases o with
  | some a => exact Or.inl ⟨a, rfl⟩
  | none => exact Or.inr ⟨e, rfl⟩

theorem Returns.attempt {x : Res ε α} (h : Returns x) : Returns x.attempt := by
  rcases h with ⟨a, rfl⟩ | ⟨e, rfl⟩
  · exact returns_ok true
  · exact returns_ok false

end Res

/-- A computation over an environment `ρ` and a state `σ`. -/
def Exec (ρ σ ε α : Type) := ρ → σ → Res ε (α × σ)

namespace Exec

variable {ρ σ ε α β : Type}

instance : Monad (Exec ρ σ ε) where
  pure a := fun _ s => .ok (a, s)
  bind x f := fun r s =>
    match x r s with
    | .ok (a, s') => f a r s'
    | .error e => .error e

/-- Run a pure computation in place. -/
def liftRes (x : Res ε α) : Exec ρ σ ε α := fun _ s =>
  match x with
  | .ok a => .ok (a, s)
  | .error e => .error e

instance : MonadLift (Res ε) (Exec ρ σ ε) where
  monadLift := liftRes

/-- Read the environment. -/
def ask : Exec ρ σ ε ρ := fun r s => .ok (r, s)

/-- Read a component of the state. -/
def gets (f : σ → α) : Exec ρ σ ε α := fun _ s => .ok (f s, s)

/-- Update the state. -/
def modify (f : σ → σ) : Exec ρ σ ε Unit := fun _ s => .ok ((), f s)

/-- Run `x` in a changed environment. -/
def withEnv (f : ρ → ρ) (x : Exec ρ σ ε α) : Exec ρ σ ε α := fun r s => x (f r) s

/-- Return the error code `e`. -/
def fail (e : ε) : Exec ρ σ ε α := liftRes (Res.fail e)

/-- Return the error code `e` when `c` holds. -/
def failIf (c : Prop) [Decidable c] (e : ε) : Exec ρ σ ε Unit := liftRes (Res.failIf c e)

/-- Panic unless `c` holds. -/
def panicUnless (c : Prop) [Decidable c] : Exec ρ σ ε Unit := liftRes (Res.panicUnless c)

/-- Abort as a failed callee unless `c` holds. -/
def calleeUnless (c : Prop) [Decidable c] : Exec ρ σ ε Unit := liftRes (Res.calleeUnless c)

/-- Call a partial function on the state; where it is undefined the callee failed. -/
def callee (f : σ → Option σ) : Exec ρ σ ε Unit := fun _ s =>
  match f s with
  | some s' => .ok ((), s')
  | none => .error .callee

/-- The value of an optional result, or the error code `e`. -/
def okOr (o : Option α) (e : ε) : Exec ρ σ ε α := liftRes (Res.okOr o e)

/-- Sequencing is associative. -/
theorem bind_assoc {γ : Type} (x : Exec ρ σ ε α) (f : α → Exec ρ σ ε β) (g : β → Exec ρ σ ε γ) :
    x >>= f >>= g = x >>= fun a => f a >>= g := by
  funext r s
  show (match (match x r s with
      | .ok (a, s') => f a r s'
      | .error e => .error e) with
    | .ok (b, s') => g b r s'
    | .error e => .error e) = match x r s with
    | .ok (a, s') => (f a >>= g) r s'
    | .error e => .error e
  cases x r s <;> rfl

theorem pure_bind (a : α) (f : α → Exec ρ σ ε β) : (pure a : Exec ρ σ ε α) >>= f = f a := rfl

/-! What passes can be left out. -/

theorem liftM_of_ok {x : Res ε α} {a : α} (h : x = .ok a) : (liftM x : Exec ρ σ ε α) = pure a := by
  rw [h]
  rfl

theorem failIf_of_not {c : Prop} [Decidable c] {e : ε} (h : ¬ c) :
    (failIf c e : Exec ρ σ ε Unit) = pure () := by
  unfold failIf Res.failIf
  rw [if_neg h]
  rfl

theorem okOr_of_some {o : Option α} {e : ε} {a : α} (h : o = some a) :
    (okOr o e : Exec ρ σ ε α) = pure a := by
  rw [h]
  rfl

/-- What follows a computation starts where it ended. -/
theorem bind_of_ok {x : Exec ρ σ ε α} {f : α → Exec ρ σ ε β} {r : ρ} {s s' : σ} {a : α}
    (h : x r s = .ok (a, s')) : (x >>= f) r s = f a r s' := by
  show (match x r s with
    | .ok (a, s') => f a r s'
    | .error e => .error e) = _
  rw [h]

/-- A fault goes through everything that follows. -/
theorem bind_eq_error {x : Exec ρ σ ε α} {f : α → Exec ρ σ ε β} {r : ρ} {s : σ} {e : Fault ε}
    (h : x r s = .error e) : (x >>= f) r s = .error e := by
  show (match x r s with
    | .ok (a, s') => f a r s'
    | .error e => .error e) = _
  rw [h]

variable {r : ρ} {s s' : σ} {a : α} {b : β}

@[simp] theorem bind_eq_ok {x : Exec ρ σ ε α} {f : α → Exec ρ σ ε β} :
    (x >>= f) r s = .ok (b, s') ↔ ∃ a s₁, x r s = .ok (a, s₁) ∧ f a r s₁ = .ok (b, s') := by
  change (match x r s with
    | .ok (a, s₁) => f a r s₁
    | .error e => .error e) = Except.ok (b, s') ↔ _
  cases x r s with
  | ok p =>
    -- `f` continues from the state that `x` left
    obtain ⟨a, s₁⟩ := p
    constructor
    · intro h
      exact ⟨a, s₁, rfl, h⟩
    · rintro ⟨a', s₁', hp, h⟩
      cases hp
      exact h
  | error e =>
    constructor
    · intro h
      cases h
    · rintro ⟨a', s₁', hp, -⟩
      cases hp

@[simp] theorem pure_eq_ok {a' : α} :
    (pure a : Exec ρ σ ε α) r s = .ok (a', s') ↔ a = a' ∧ s = s' := by
  change Except.ok (a, s) = Except.ok (a', s') ↔ _
  simp

@[simp] theorem liftRes_eq_ok {x : Res ε α} :
    (liftRes x : Exec ρ σ ε α) r s = .ok (a, s') ↔ x = .ok a ∧ s = s' := by
  cases x <;> simp [liftRes]

/-- `do` notation inserts the lift as `liftM`. -/
@[simp] theorem liftM_eq_ok {x : Res ε α} :
    (liftM x : Exec ρ σ ε α) r s = .ok (a, s') ↔ x = .ok a ∧ s = s' :=
  liftRes_eq_ok

@[simp] theorem fail_ne_ok {e : ε} : (fail e : Exec ρ σ ε α) r s ≠ .ok (a, s') := by
  simp [fail]

@[simp] theorem failIf_eq_ok {c : Prop} [Decidable c] {e : ε} {u : Unit} :
    (failIf c e : Exec ρ σ ε Unit) r s = .ok (u, s') ↔ ¬ c ∧ s = s' := by
  simp [failIf]

@[simp] theorem panicUnless_eq_ok {c : Prop} [Decidable c] {u : Unit} :
    (panicUnless c : Exec ρ σ ε Unit) r s = .ok (u, s') ↔ c ∧ s = s' := by
  simp [panicUnless]

@[simp] theorem calleeUnless_eq_ok {c : Prop} [Decidable c] {u : Unit} :
    (calleeUnless c : Exec ρ σ ε Unit) r s = .ok (u, s') ↔ c ∧ s = s' := by
  simp [calleeUnless]

@[simp] theorem callee_eq_ok {f : σ → Option σ} {u : Unit} :
    (callee f : Exec ρ σ ε Unit) r s = .ok (u, s') ↔ f s = some s' := by
  unfold callee
  cases f s <;> simp

@[simp] theorem okOr_eq_ok {o : Option α} {e : ε} :
    (okOr o e : Exec ρ σ ε α) r s = .ok (a, s') ↔ o = some a ∧ s = s' := by
  simp [okOr]

@[simp] theorem ask_eq_ok {r' : ρ} :
    (ask : Exec ρ σ ε ρ) r s = .ok (r', s') ↔ r = r' ∧ s = s' := by
  simp [ask]

@[simp] theorem gets_eq_ok {f : σ → α} :
    (gets f : Exec ρ σ ε α) r s = .ok (a, s') ↔ f s = a ∧ s = s' := by
  simp [gets]

@[simp] theorem modify_eq_ok {f : σ → σ} {u : Unit} :
    (modify f : Exec ρ σ ε Unit) r s = .ok (u, s') ↔ f s = s' := by
  simp [modify]

@[simp] theorem withEnv_eq_ok {f : ρ → ρ} {x : Exec ρ σ ε α} :
    (withEnv f x) r s = .ok (a, s') ↔ x (f r) s = .ok (a, s') := Iff.rfl

end Exec
