import Mathlib.Data.List.DropRight

/-!
# Padding at the end of a list

A list is padded to a fixed length with a filler `z`, and stripped by dropping the
fillers it ends in. Stripping a padded list forgets the fillers the list itself ended
in, and nothing else; padding a stripped list gives the list back. So the two are
inverse to each other on the lists that do not end in `z` (`Tight`).

The length of a stripped list is found by a search from the back (`rposition`).
-/

namespace Padding

variable {α : Type*}

/-- The list, followed by fillers up to the length `n`. -/
def pad (z : α) (n : ℕ) (xs : List α) : List α := xs ++ List.replicate (n - xs.length) z

/-- The list is empty, or its last element is not the filler. -/
def Tight (z : α) (xs : List α) : Prop := xs = [] ∨ ∃ h : xs ≠ [], xs.getLast h ≠ z

/-- Search for the last position below `n` whose element satisfies `p`. -/
def rpositionBelow (p : α → Bool) (xs : List α) : ℕ → Option ℕ
  | 0 => none
  | n + 1 => if xs[n]?.any p then some n else rpositionBelow p xs n

/-- The last position whose element satisfies `p`. -/
def rposition (p : α → Bool) (xs : List α) : Option ℕ := rpositionBelow p xs xs.length

variable {z : α} {xs : List α} {n : ℕ}

theorem length_pad (h : xs.length ≤ n) : (pad z n xs).length = n := by
  rw [pad, List.length_append, List.length_replicate]
  omega

theorem take_pad : (pad z n xs).take xs.length = xs := List.take_left' rfl

theorem tight_iff : Tight z xs ↔ ∀ h : xs ≠ [], xs.getLast h ≠ z := by
  constructor
  · rintro (rfl | ⟨hne, hlast⟩) h
    · exact absurd rfl h
    · exact hlast
  · intro h
    by_cases hnil : xs = []
    · exact Or.inl hnil
    · exact Or.inr ⟨hnil, h hnil⟩

theorem rpositionBelow_lt {p : α → Bool} {i : ℕ} (h : rpositionBelow p xs n = some i) : i < n := by
  induction n with
  | zero => cases h
  | succ n ih =>
    rw [rpositionBelow] at h
    split at h
    · cases h
      exact i.lt_succ_self
    · exact (ih h).trans n.lt_succ_self

variable [DecidableEq α]

/-- The list without the fillers it ends in. -/
def strip (z : α) (xs : List α) : List α := xs.rdropWhile (· = z)

theorem isPrefix_strip (z : α) (xs : List α) : strip z xs <+: xs := List.rdropWhile_prefix _ _

theorem strip_eq_self_iff : strip z xs = xs ↔ Tight z xs := by
  rw [tight_iff, strip, List.rdropWhile_eq_self_iff]
  simp only [decide_eq_true_eq, ne_eq]

/-- Nothing is left to strip. -/
theorem tight_strip (z : α) (xs : List α) : Tight z (strip z xs) :=
  strip_eq_self_iff.mp (List.rdropWhile_idempotent _ _)

theorem length_strip_eq_iff : (strip z xs).length = xs.length ↔ Tight z xs := by
  rw [← strip_eq_self_iff]
  constructor
  · exact (isPrefix_strip z xs).eq_of_length
  · exact congrArg List.length

theorem strip_append_replicate (z : α) (xs : List α) (k : ℕ) :
    strip z (xs ++ List.replicate k z) = strip z xs := by
  induction k with
  | zero => rw [List.replicate_zero, List.append_nil]
  | succ k ih =>
    rw [List.replicate_succ', ← List.append_assoc, strip, List.rdropWhile_concat_pos]
    · exact ih
    · exact decide_eq_true rfl

/-- Padding adds nothing that stripping keeps. -/
theorem strip_pad : strip z (pad z n xs) = strip z xs := strip_append_replicate z xs _

/-- What stripping drops, padding puts back. -/
theorem pad_strip (z : α) (xs : List α) : pad z xs.length (strip z xs) = xs := by
  have hsplit : strip z xs ++ xs.rtakeWhile (· = z) = xs := List.rdropWhile_append_rtakeWhile
  -- the dropped part consists of fillers, as many as the two lengths differ by
  have hfill : xs.rtakeWhile (· = z) = List.replicate (xs.length - (strip z xs).length) z := by
    rw [List.eq_replicate_iff]
    constructor
    · have hlen := congrArg List.length hsplit
      rw [List.length_append] at hlen
      omega
    · intro x hx
      exact of_decide_eq_true (List.mem_rtakeWhile_imp (p := (· = z)) hx)
  rw [pad, ← hfill, hsplit]

/-! ### The search from the back -/

theorem take_rpositionBelow (h : n ≤ xs.length) :
    xs.take ((rpositionBelow (· ≠ z) xs n).elim 0 (· + 1)) = strip z (xs.take n) := by
  induction n with
  | zero => rfl
  | succ n ih =>
    have hn : n < xs.length := h
    rw [List.take_succ_eq_append_getElem hn, strip, List.rdropWhile_concat, rpositionBelow,
      List.getElem?_eq_getElem hn]
    by_cases hz : xs[n] = z
    · -- a filler is passed over
      rw [if_neg (by simp [hz]), if_pos (decide_eq_true hz)]
      exact ih hn.le
    · rw [if_pos (by simp [hz]), if_neg (by simp [hz]), ← List.take_succ_eq_append_getElem hn]
      rfl

/-- The search finds the length of the stripped list. -/
theorem take_rposition (z : α) (xs : List α) :
    xs.take ((rposition (· ≠ z) xs).elim 0 (· + 1)) = strip z xs := by
  have hwhole := take_rpositionBelow (z := z) (le_refl xs.length)
  rwa [List.take_length] at hwhole

theorem length_strip (z : α) (xs : List α) :
    (strip z xs).length = (rposition (· ≠ z) xs).elim 0 (· + 1) := by
  rw [← take_rposition, List.length_take, min_eq_left]
  cases h : rposition (· ≠ z) xs with
  | none => exact Nat.zero_le _
  | some i => exact rpositionBelow_lt h

end Padding
