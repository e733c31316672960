import Mathlib.Order.Defs.Unbundled
import Mathlib.Data.List.Basic

/-!
# Runs of labelled transition systems

`System` is a labelled transition system with a set of initial states, `Run` its
finite runs with the transitions they take, and `Reachable` the end states of runs
that start initially. The file provides the proof rules the development uses:

* `Run.invariant`: a predicate kept by every step is kept by every run;
* `Run.relates`: a reflexive and transitive relation that every step respects
  relates the two ends of a run;
* `Run.append_iff`, `Run.mem`: cutting a run at one of its transitions;
* `Run.exists_last_entry`: a predicate that fails at the start and holds at the
  end was entered by some transition and has held ever since;
* `Run.countP`: a counter that each step raises by what it counts;
* `Run.pairwise`: a relation between any two transitions of a run.
-/

namespace Transition

variable {σ ℓ : Type*}

/-- A labelled transition system. -/
structure System (σ ℓ : Type*) where
  init : σ → Prop
  step : σ → ℓ → σ → Prop

/-- One transition of a run, with the states around it. -/
structure Edge (σ ℓ : Type*) where
  pre : σ
  label : ℓ
  post : σ

/-- Finite runs: the start, the transitions in order, the end. -/
inductive Run (T : System σ ℓ) : σ → List (Edge σ ℓ) → σ → Prop where
  | nil (s : σ) : Run T s [] s
  | cons {s s₁ s' : σ} {l : ℓ} {tr : List (Edge σ ℓ)} (hstep : T.step s l s₁)
      (hrun : Run T s₁ tr s') : Run T s (⟨s, l, s₁⟩ :: tr) s'

/-- The end states of runs from an initial state. -/
def Reachable (T : System σ ℓ) (s : σ) : Prop := ∃ s₀ tr, T.init s₀ ∧ Run T s₀ tr s

variable {T : System σ ℓ} {s s' s'' : σ} {tr tr₁ tr₂ : List (Edge σ ℓ)} {e : Edge σ ℓ}

namespace Run

theorem single {l : ℓ} (h : T.step s l s') : Run T s [⟨s, l, s'⟩] s' := cons h (nil _)

theorem append (h₁ : Run T s tr₁ s') (h₂ : Run T s' tr₂ s'') : Run T s (tr₁ ++ tr₂) s'' := by
  induction h₁ with
  | nil => exact h₂
  | cons hstep _ ih => exact cons hstep (ih h₂)

theorem append_iff : Run T s (tr₁ ++ tr₂) s'' ↔ ∃ s', Run T s tr₁ s' ∧ Run T s' tr₂ s'' := by
  constructor
  · intro h
    induction tr₁ generalizing s with
    | nil => exact ⟨s, nil s, h⟩
    | cons e tr₁ ih =>
      cases h with
      | cons hstep hrun =>
        obtain ⟨s', h₁, h₂⟩ := ih hrun
        exact ⟨s', cons hstep h₁, h₂⟩
  · rintro ⟨s', h₁, h₂⟩
    exact h₁.append h₂

/-- Cutting a run at one of its transitions. -/
theorem cons_middle_iff :
    Run T s (tr₁ ++ e :: tr₂) s' ↔
      Run T s tr₁ e.pre ∧ T.step e.pre e.label e.post ∧ Run T e.post tr₂ s' := by
  rw [append_iff]
  constructor
  · rintro ⟨s₁, h₁, h₂⟩
    cases h₂ with
    | cons hstep hrun => exact ⟨h₁, hstep, hrun⟩
  · rintro ⟨h₁, hstep, h₂⟩
    exact ⟨e.pre, h₁, cons hstep h₂⟩

theorem mem (h : Run T s tr s') (he : e ∈ tr) :
    ∃ tr₁ tr₂, tr = tr₁ ++ e :: tr₂ ∧ Run T s tr₁ e.pre ∧ T.step e.pre e.label e.post ∧
      Run T e.post tr₂ s' := by
  obtain ⟨tr₁, tr₂, rfl⟩ := List.append_of_mem he
  exact ⟨tr₁, tr₂, rfl, cons_middle_iff.mp h⟩

/-- Each transition of a run is a step. -/
theorem step (h : Run T s tr s') (he : e ∈ tr) : T.step e.pre e.label e.post := by
  obtain ⟨tr₁, tr₂, -, -, hstep, -⟩ := h.mem he
  exact hstep

/-- A predicate kept by every step of the run is kept by the run. -/
theorem invariant {I : σ → Prop} (h : Run T s tr s') (h₀ : I s)
    (hkeep : ∀ e ∈ tr, T.step e.pre e.label e.post → I e.pre → I e.post) : I s' := by
  induction h with
  | nil => exact h₀
  | cons hstep _ ih =>
    exact ih (hkeep _ List.mem_cons_self hstep h₀)
      fun e he => hkeep e (List.mem_cons_of_mem _ he)

/-- A predicate kept by every step of the run holds around each of its transitions. -/
theorem invariant_mem {I : σ → Prop} (h : Run T s tr s') (h₀ : I s)
    (hkeep : ∀ e ∈ tr, T.step e.pre e.label e.post → I e.pre → I e.post) :
    ∀ e ∈ tr, I e.pre ∧ I e.post := by
  intro e he
  obtain ⟨tr₁, tr₂, rfl, h₁, hstep, -⟩ := h.mem he
  have hpre : I e.pre := h₁.invariant h₀ fun e' he' =>
    hkeep e' (List.mem_append_left _ he')
  exact ⟨hpre, hkeep e he hstep hpre⟩

/-- A reflexive and transitive relation that every step respects relates the ends
of the run. -/
theorem relates {R : σ → σ → Prop} [Std.Refl R] [IsTrans σ R] (h : Run T s tr s')
    (hstep : ∀ e ∈ tr, T.step e.pre e.label e.post → R e.pre e.post) : R s s' := by
  induction h with
  | nil => exact Std.Refl.refl _
  | cons hs _ ih =>
    exact IsTrans.trans _ _ _ (hstep _ List.mem_cons_self hs)
      (ih fun e he => hstep e (List.mem_cons_of_mem _ he))

/-- A run that ends in `Q` either entered `Q` by one of its transitions and has been in
`Q` ever since, or was in `Q` throughout. -/
theorem entry_or_throughout {Q : σ → Prop} (h : Run T s tr s') (h₁ : Q s') :
    (∃ tr₁ e tr₂, tr = tr₁ ++ e :: tr₂ ∧ ¬ Q e.pre ∧ Q e.post ∧
      ∀ e' ∈ tr₂, Q e'.pre ∧ Q e'.post) ∨ (Q s ∧ ∀ e ∈ tr, Q e.pre ∧ Q e.post) := by
  induction h with
  | nil => exact Or.inr ⟨h₁, by simp⟩
  | @cons s s₁ s' l tr hstep hrun ih =>
    rcases ih h₁ with ⟨tr₁, e, tr₂, rfl, hentry⟩ | ⟨hQ, hall⟩
    · -- the last entry is in the rest of the run
      exact Or.inl ⟨⟨s, l, s₁⟩ :: tr₁, e, tr₂, rfl, hentry⟩
    · -- the rest is in `Q` throughout, so it depends on the start
      by_cases hs : Q s
      · refine Or.inr ⟨hs, fun e he => ?_⟩
        rcases List.mem_cons.mp he with rfl | he
        · exact ⟨hs, hQ⟩
        · exact hall e he
      · exact Or.inl ⟨[], ⟨s, l, s₁⟩, tr, rfl, hs, hQ, hall⟩

/-- **Last entry.** A predicate that fails at the start of a run and holds at its end
was entered by one of its transitions and holds around every later one. -/
theorem exists_last_entry {Q : σ → Prop} (h : Run T s tr s') (h₀ : ¬ Q s) (h₁ : Q s') :
    ∃ tr₁ e tr₂, tr = tr₁ ++ e :: tr₂ ∧ ¬ Q e.pre ∧ Q e.post ∧
      ∀ e' ∈ tr₂, Q e'.pre ∧ Q e'.post := by
  rcases h.entry_or_throughout h₁ with hentry | ⟨hQ, -⟩
  · exact hentry
  · exact absurd hQ h₀

/-- A counter that each transition raises by one exactly when it satisfies `p` has
grown by the number of those transitions. -/
theorem countP {c : σ → ℕ} {p : Edge σ ℓ → Bool} (h : Run T s tr s')
    (hstep : ∀ e ∈ tr, T.step e.pre e.label e.post →
      c e.post = c e.pre + (if p e then 1 else 0)) :
    c s' = c s + tr.countP p := by
  induction h with
  | nil => simp
  | @cons s s₁ s' l tr hs hrun ih =>
    have hhead : c s₁ = c s + _ := hstep _ List.mem_cons_self hs
    have htail := ih fun e he => hstep e (List.mem_cons_of_mem _ he)
    rw [htail, hhead, List.countP_cons]
    omega

end Run

/-- Any two transitions of a run, in their order, are related when the first is related to
every transition that a run from its end can arrive at. -/
theorem Run.pairwise {R : Edge σ ℓ → Edge σ ℓ → Prop} {I : σ → Prop} (h : Run T s tr s') (h₀ : I s)
    (hkeep : ∀ e ∈ tr, T.step e.pre e.label e.post → I e.pre → I e.post)
    (hR : ∀ e e' tr₁, I e.pre → T.step e.pre e.label e.post → Run T e.post tr₁ e'.pre →
      T.step e'.pre e'.label e'.post → R e e') : tr.Pairwise R := by
  induction h with
  | nil => exact List.Pairwise.nil
  | @cons s s₁ s' l tr hstep hrun ih =>
    have h₁ : I s₁ := hkeep ⟨s, l, s₁⟩ List.mem_cons_self hstep h₀
    have htail : tr.Pairwise R := ih h₁ fun e he => hkeep e (List.mem_cons_of_mem _ he)
    refine List.Pairwise.cons ?_ htail
    intro e' he'
    -- the run between the two transitions is the rest of this one, cut at the second
    obtain ⟨tr₁, tr₂, -, hbetween, hstep', -⟩ := hrun.mem he'
    exact hR ⟨s, l, s₁⟩ e' tr₁ h₀ hstep hbetween hstep'

namespace Reachable

theorem of_init (h : T.init s) : Reachable T s := ⟨s, [], h, Run.nil s⟩

theorem run (h : Reachable T s) (hrun : Run T s tr s') : Reachable T s' := by
  obtain ⟨s₀, tr₀, h₀, h₁⟩ := h
  exact ⟨s₀, tr₀ ++ tr, h₀, h₁.append hrun⟩

/-- A predicate that holds initially and is kept by every step holds in every reachable
state. -/
theorem invariant {I : σ → Prop} (h : Reachable T s) (h₀ : ∀ s, T.init s → I s)
    (hkeep : ∀ s l s', T.step s l s' → I s → I s') : I s := by
  obtain ⟨s₀, tr, hinit, hrun⟩ := h
  exact hrun.invariant (h₀ s₀ hinit) fun e _ => hkeep e.pre e.label e.post

end Reachable

end Transition
