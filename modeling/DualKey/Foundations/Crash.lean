import DualKey.Foundations.Dialogue
import DualKey.Foundations.Transition

/-!
# Dialogues that can stop anywhere

The surroundings of a dialogue are here a transition system, the *world*, whose labels are
questions with their answers. It may answer in several ways and may fail, so a dialogue has many
runs. A process that is killed leaves the world in one of the states in between.

`Safe W I s x Q E` is a triple with such a crash condition: every state that a run of `x` from `s`
passes through is in `I`, a run that succeeds with `a` ends in a state with `Q a`, and one that
fails does so with an error in `E`. There is one rule for every construct; `Safe.bind` is the rule
of composition. A run of handlers is a run of the world (`enacted_run`).
-/

namespace Dialogue

open Transition

variable {Q : Type} {A : Q → Type} {ε α β σ : Type}

/-- A world: states, and what each of them may answer. -/
abbrev World (A : Q → Type) (σ : Type) := System σ (Σ q, A q)

/-- The dialogue comes to `r` along a run of the world from `s` to `s'`. -/
structure Enacted (W : World A σ) (x : Dialogue A ε α) (s : σ)
    (tr : List (Edge σ (Σ q, A q))) (r : Except ε α) (s' : σ) : Prop where
  run : Run W s tr s'
  path : Path x (tr.map Edge.label) r

variable {W : World A σ} {x : Dialogue A ε α} {f : α → Dialogue A ε β} {s s' : σ}
  {tr : List (Edge σ (Σ q, A q))}

theorem enacted_done {r r' : Except ε α} (h : Enacted W (done r : Dialogue A ε α) s tr r' s') :
    tr = [] ∧ r = r' ∧ s = s' := by
  obtain ⟨hnil, hr⟩ := path_done.mp h.path
  obtain rfl : tr = [] := List.map_eq_nil_iff.mp hnil
  have hrun := h.run
  cases hrun
  exact ⟨rfl, hr, rfl⟩

theorem enacted_ask {q : Q} {next : A q → Dialogue A ε α} {r : Except ε α}
    (h : Enacted W (ask q next) s tr r s') :
    ∃ answer t rest, tr = ⟨s, ⟨q, answer⟩, t⟩ :: rest ∧ W.step s ⟨q, answer⟩ t ∧
      Enacted W (next answer) t rest r s' := by
  obtain ⟨answer, log, hlog, hnext⟩ := path_ask.mp h.path
  obtain ⟨e, rest, rfl, hlabel, rfl⟩ := List.map_eq_cons_iff.mp hlog
  have hrun := h.run
  cases hrun with
  | @cons s t _ l _ hstep hrest =>
    obtain rfl : l = ⟨q, answer⟩ := hlabel
    exact ⟨answer, t, rest, rfl, hstep, hrest, hnext⟩

/-- Both parts of a sequence are enacted, the second where the first has ended. -/
theorem enacted_bind {r : Except ε β} (h : Enacted W (x >>= f) s tr r s') :
    (∃ e, Enacted W x s tr (.error e) s' ∧ .error e = r) ∨
      ∃ a t tr₁ tr₂, tr = tr₁ ++ tr₂ ∧ Enacted W x s tr₁ (.ok a) t ∧
        Enacted W (f a) t tr₂ r s' := by
  rcases path_bind.mp h.path with ⟨e, he, hr⟩ | ⟨a, before, after, hlog, ha, hf⟩
  · exact Or.inl ⟨e, ⟨h.run, he⟩, hr⟩
  · obtain ⟨tr₁, tr₂, rfl, rfl, rfl⟩ := List.map_eq_append_iff.mp hlog
    obtain ⟨t, hfirst, hsecond⟩ := Run.append_iff.mp h.run
    exact Or.inr ⟨a, t, tr₁, tr₂, rfl, ⟨hfirst, ha⟩, hsecond, hf⟩

/-- A success is one of both parts. -/
theorem enacted_bind_ok {b : β} (h : Enacted W (x >>= f) s tr (.ok b) s') :
    ∃ a t tr₁ tr₂, tr = tr₁ ++ tr₂ ∧ Enacted W x s tr₁ (.ok a) t ∧
      Enacted W (f a) t tr₂ (.ok b) s' := by
  rcases enacted_bind h with ⟨e, -, he⟩ | hboth
  · cases he
  · exact hboth

theorem Enacted.ok {a : α} : Enacted W (Pure.pure a : Dialogue A ε α) s [] (.ok a) s :=
  ⟨.nil s, .done _⟩

theorem Enacted.question {q : Q} {answer : A q} (h : W.step s ⟨q, answer⟩ s') :
    Enacted W (question q : Dialogue A ε (A q)) s [⟨s, ⟨q, answer⟩, s'⟩] (.ok answer) s' :=
  ⟨.single h, .ask answer (.done _)⟩

theorem Enacted.bind {a : α} {t : σ} {tr₁ tr₂ : List (Edge σ (Σ q, A q))} {r : Except ε β}
    (hx : Enacted W x s tr₁ (.ok a) t) (hf : Enacted W (f a) t tr₂ r s') :
    Enacted W (x >>= f) s (tr₁ ++ tr₂) r s' := by
  refine ⟨hx.run.append hf.run, ?_⟩
  rw [List.map_append]
  exact path_bind.mpr (Or.inr ⟨a, _, _, rfl, hx.path, hf.path⟩)

/-- Handlers that answer as the world may answer enact the dialogue. -/
theorem enacted_run {h : (q : Q) → σ → A q × σ}
    (hworld : ∀ q s, W.step s ⟨q, (h q s).1⟩ (h q s).2) (x : Dialogue A ε α) (s : σ) :
    ∃ tr, Enacted W x s tr (run h x s).1 (run h x s).2 := by
  induction x generalizing s with
  | done r => exact ⟨[], .nil s, .done r⟩
  | ask q next ih =>
    obtain ⟨tr, hrun, hpath⟩ := ih (h q s).1 (h q s).2
    exact ⟨⟨s, ⟨q, (h q s).1⟩, (h q s).2⟩ :: tr, .cons (hworld q s) hrun, .ask _ hpath⟩

/-! ### Triples with a crash condition -/

/-- From `s`, the dialogue passes through states in `I` alone, ends with `Q a` if it succeeds with
`a`, and fails with an error in `E` if it fails. -/
def Safe (W : World A σ) (I : σ → Prop) (s : σ) (x : Dialogue A ε α) (P : α → σ → Prop)
    (E : ε → Prop) : Prop :=
  ∀ tr r s', Enacted W x s tr r s' →
    (∀ e ∈ tr, I e.post) ∧ (∀ a, r = .ok a → P a s') ∧ ∀ e, r = .error e → E e

namespace Safe

variable {I J : σ → Prop} {P P' : α → σ → Prop} {R : β → σ → Prop} {E F : ε → Prop}

theorem mono (h : Safe W I s x P E) (hI : ∀ t, I t → J t) (hP : ∀ a t, P a t → P' a t)
    (hE : ∀ e, E e → F e) : Safe W J s x P' F := by
  intro tr r s' henacted
  obtain ⟨hall, hok, herror⟩ := h tr r s' henacted
  exact ⟨fun e he => hI _ (hall e he), fun a ha => hP a s' (hok a ha),
    fun e he => hE e (herror e he)⟩

theorem ok {a : α} (h : P a s) : Safe W I s (Pure.pure a : Dialogue A ε α) P E := by
  intro tr r s' henacted
  obtain ⟨rfl, rfl, rfl⟩ := enacted_done henacted
  refine ⟨fun e he => absurd he List.not_mem_nil, ?_, fun e he => nomatch he⟩
  rintro b ⟨⟩
  exact h

theorem throw {e : ε} (h : E e) : Safe W I s (throw e : Dialogue A ε α) P E := by
  intro tr r s' henacted
  obtain ⟨rfl, rfl, rfl⟩ := enacted_done henacted
  refine ⟨fun e he => absurd he List.not_mem_nil, fun a ha => (nomatch ha), ?_⟩
  rintro e' ⟨⟩
  exact h

/-- A value that is computed without asking. -/
theorem lift {y : Except ε α} (hok : ∀ a, y = .ok a → P a s) (herror : ∀ e, y = .error e → E e) :
    Safe W I s (liftM y : Dialogue A ε α) P E := by
  cases y with
  | ok a => exact ok (hok a rfl)
  | error e => exact throw (herror e rfl)

/-- One question. -/
theorem question {q : Q} {P : A q → σ → Prop}
    (h : ∀ answer t, W.step s ⟨q, answer⟩ t → I t ∧ P answer t) :
    Safe W I s (question q : Dialogue A ε (A q)) P E := by
  intro tr r s' henacted
  obtain ⟨answer, t, rest, rfl, hstep, hnext⟩ := enacted_ask henacted
  obtain ⟨rfl, rfl, rfl⟩ := enacted_done hnext
  obtain ⟨hinv, hpost⟩ := h answer _ hstep
  refine ⟨List.forall_mem_singleton.mpr hinv, ?_, fun e he => nomatch he⟩
  rintro b ⟨⟩
  exact hpost

/-- The second part starts where the first has ended. -/
theorem bind (hx : Safe W I s x P E) (hf : ∀ a t, P a t → Safe W I t (f a) R E) :
    Safe W I s (x >>= f) R E := by
  intro tr r s' henacted
  rcases enacted_bind henacted with ⟨e, hfirst, rfl⟩ | ⟨a, t, tr₁, tr₂, rfl, hfirst, hsecond⟩
  · obtain ⟨hall, -, herror⟩ := hx tr _ s' hfirst
    refine ⟨hall, fun b hb => (nomatch hb), ?_⟩
    rintro e' ⟨⟩
    exact herror e rfl
  · obtain ⟨hall, hok, -⟩ := hx tr₁ _ t hfirst
    obtain ⟨hall', hrest⟩ := hf a t (hok a rfl) tr₂ r s' hsecond
    refine ⟨fun e he => ?_, hrest⟩
    exact (List.mem_append.mp he).elim (hall e) (hall' e)

end Safe

end Dialogue
