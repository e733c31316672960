import DualKey.Foundations.Hex

/-!
# Errors of the client

The client fails with a `ClientError`, which names the field, file or key at fault.
-/

namespace DualKey

open Hex (FromHexError)

/-- The errors of the client. -/
inductive ClientError where
  | keyFileLength (path : String) (expected actual : ℕ)
  | falconKey (reason : String)
  | falconSignatureTooLong (actual max : ℕ)
  | intentFormat (path reason : String)
  | hex (field : String) (source : FromHexError)
  | pdaDerivation
  | policyNotImplemented (policy : UInt8)
deriving DecidableEq

/-- The field or file of an error that names one. -/
def ClientError.path? : ClientError → Option String
  | keyFileLength path _ _ => some path
  | intentFormat path _ => some path
  | hex field _ => some field
  | _ => none

abbrev ClientRes (α : Type) := Except ClientError α

namespace ClientRes

variable {α β : Type}

theorem bind_eq_ok {x : ClientRes α} {f : α → ClientRes β} {b : β} :
    x >>= f = .ok b ↔ ∃ a, x = .ok a ∧ f a = .ok b := by
  cases x with
  | ok a =>
    constructor
    · intro h
      exact ⟨a, rfl, h⟩
    · rintro ⟨_, ⟨⟩, h⟩
      exact h
  | error e =>
    constructor
    · rintro ⟨⟩
    · rintro ⟨_, ⟨⟩, -⟩

theorem bind_eq_error {x : ClientRes α} {f : α → ClientRes β} {e : ClientError} :
    x >>= f = .error e ↔ x = .error e ∨ ∃ a, x = .ok a ∧ f a = .error e := by
  cases x with
  | ok a =>
    constructor
    · intro h
      exact Or.inr ⟨a, rfl, h⟩
    · rintro (⟨⟨⟩⟩ | ⟨_, ⟨⟩, h⟩)
      exact h
  | error e' =>
    constructor
    · rintro ⟨⟩
      exact Or.inl rfl
    · rintro (⟨⟨⟩⟩ | ⟨_, ⟨⟩, -⟩)
      rfl

theorem pure_eq_ok {a b : α} : (pure a : ClientRes α) = .ok b ↔ a = b :=
  Except.ok.injEq a b ▸ Iff.rfl

end ClientRes

end DualKey
