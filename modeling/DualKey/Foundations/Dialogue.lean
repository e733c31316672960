import Mathlib.Data.List.Basic
import Mathlib.Order.Basic
import Mathlib.Tactic.Common

/-!
# Dialogues

A program that talks to its surroundings is a *dialogue*: a tree of questions, one branch for
every answer, whose leaves are results. A question `q` is answered by a value of `A q`. The
surroundings are not part of the tree, so a fact about all its paths holds whatever they answer.

* `Path x log r`: the dialogue `x` can go as in `log` and end with `r`. There is one rule for
  every construct (`path_pure`, `path_lift`, `path_question`, `path_bind`).
* `Within p c n x`: on every path only questions of the kind `p` are asked, and at most `n` of
  the kind `c`.
* `run h x s`: the dialogue with surroundings that answer as `h` says and change their state
  doing so. Its `transcript` is a path (`path_run`).
-/

/-- A computation that asks questions and returns or fails. -/
inductive Dialogue {Q : Type} (A : Q → Type) (ε α : Type) where
  | done (result : Except ε α)
  | ask (q : Q) (next : A q → Dialogue A ε α)

namespace Dialogue

variable {Q : Type} {A : Q → Type} {ε α β : Type}

/-- Go on with the value of the first part, unless it fails. -/
def bind (x : Dialogue A ε α) (f : α → Dialogue A ε β) : Dialogue A ε β :=
  match x with
  | done (.ok a) => f a
  | done (.error e) => done (.error e)
  | ask q next => ask q fun answer => (next answer).bind f

instance : Monad (Dialogue A ε) where
  pure a := done (.ok a)
  bind := bind

instance : MonadLift (Except ε) (Dialogue A ε) := ⟨done⟩

/-- Ask one question. -/
def question (q : Q) : Dialogue A ε (A q) := ask q fun answer => done (.ok answer)

/-- Fail. -/
def throw (e : ε) : Dialogue A ε α := done (.error e)

@[simp] theorem pure_eq (a : α) : (pure a : Dialogue A ε α) = done (.ok a) := rfl
@[simp] theorem done_ok_bind (a : α) (f : α → Dialogue A ε β) : done (.ok a) >>= f = f a := rfl

@[simp] theorem done_error_bind (e : ε) (f : α → Dialogue A ε β) :
    (done (.error e) : Dialogue A ε α) >>= f = done (.error e) := rfl

@[simp] theorem ask_bind (q : Q) (next : A q → Dialogue A ε α) (f : α → Dialogue A ε β) :
    ask q next >>= f = ask q fun answer => next answer >>= f := rfl

/-! ### Paths -/

/-- Questions and answers, in order. -/
abbrev Log (A : Q → Type) := List (Σ q, A q)

/-- The dialogue can go as in the log and end with the result. -/
inductive Path : Dialogue A ε α → Log A → Except ε α → Prop where
  | done (r : Except ε α) : Path (done r) [] r
  | ask {q : Q} {next : A q → Dialogue A ε α} {log : Log A} {r : Except ε α} (answer : A q)
      (h : Path (next answer) log r) : Path (ask q next) (⟨q, answer⟩ :: log) r

variable {x : Dialogue A ε α} {f : α → Dialogue A ε β} {log : Log A}

theorem path_done {r r' : Except ε α} : Path (done r : Dialogue A ε α) log r' ↔
    log = [] ∧ r = r' := by
  constructor
  · intro h
    cases h
    exact ⟨rfl, rfl⟩
  · rintro ⟨rfl, rfl⟩
    exact .done _

theorem path_pure {a : α} {r : Except ε α} :
    Path (pure a : Dialogue A ε α) log r ↔ log = [] ∧ .ok a = r := path_done

theorem path_lift {y : Except ε α} {r : Except ε α} :
    Path (liftM y : Dialogue A ε α) log r ↔ log = [] ∧ y = r := path_done

theorem path_throw {e : ε} {r : Except ε α} :
    Path (throw e : Dialogue A ε α) log r ↔ log = [] ∧ .error e = r := path_done

theorem path_ask {q : Q} {next : A q → Dialogue A ε α} {r : Except ε α} :
    Path (ask q next) log r ↔
      ∃ answer rest, log = ⟨q, answer⟩ :: rest ∧ Path (next answer) rest r := by
  constructor
  · intro h
    cases h with
    | ask answer h => exact ⟨answer, _, rfl, h⟩
  · rintro ⟨answer, rest, rfl, h⟩
    exact .ask answer h

theorem path_question {q : Q} {r : Except ε (A q)} :
    Path (question q : Dialogue A ε (A q)) log r ↔
      ∃ answer, log = [⟨q, answer⟩] ∧ .ok answer = r := by
  rw [question, path_ask]
  constructor
  · rintro ⟨answer, rest, rfl, h⟩
    obtain ⟨rfl, hr⟩ := path_done.mp h
    exact ⟨answer, rfl, hr⟩
  · rintro ⟨answer, rfl, hr⟩
    exact ⟨answer, [], rfl, path_done.mpr ⟨rfl, hr⟩⟩

/-- A failure of the first part is one of the whole; otherwise the second part goes on. -/
theorem path_bind {r : Except ε β} :
    Path (x >>= f) log r ↔
      (∃ e, Path x log (.error e) ∧ .error e = r) ∨
        ∃ a before after, log = before ++ after ∧ Path x before (.ok a) ∧ Path (f a) after r := by
  induction x generalizing log with
  | done y =>
    cases y with
    | ok a =>
      rw [done_ok_bind]
      constructor
      · intro h
        exact Or.inr ⟨a, [], log, rfl, .done _, h⟩
      · rintro (⟨e, h, -⟩ | ⟨a', before, after, rfl, h, h'⟩)
        · cases h
        · cases h
          exact h'
    | error e =>
      rw [done_error_bind, path_done]
      constructor
      · rintro ⟨rfl, hr⟩
        exact Or.inl ⟨e, .done _, hr⟩
      · rintro (⟨e', h, hr⟩ | ⟨a, before, after, -, h, -⟩)
        · cases h
          exact ⟨rfl, hr⟩
        · cases h
  | ask q next ih =>
    rw [ask_bind, path_ask]
    constructor
    · rintro ⟨answer, rest, rfl, h⟩
      rcases (ih answer).mp h with ⟨e, he, hr⟩ | ⟨a, before, after, rfl, ha, h'⟩
      · exact Or.inl ⟨e, .ask answer he, hr⟩
      · exact Or.inr ⟨a, ⟨q, answer⟩ :: before, after, rfl, .ask answer ha, h'⟩
    · rintro (⟨e, he, hr⟩ | ⟨a, before, after, rfl, ha, h'⟩)
      · obtain ⟨answer, rest, rfl, hnext⟩ := path_ask.mp he
        exact ⟨answer, rest, rfl, (ih answer).mpr (Or.inl ⟨e, hnext, hr⟩)⟩
      · obtain ⟨answer, rest, rfl, hnext⟩ := path_ask.mp ha
        exact ⟨answer, rest ++ after, rfl,
          (ih answer).mpr (Or.inr ⟨a, rest, after, rfl, hnext, h'⟩)⟩

/-- A success is one of both parts. -/
theorem path_bind_ok {b : β} :
    Path (x >>= f) log (.ok b) ↔
      ∃ a before after, log = before ++ after ∧ Path x before (.ok a) ∧
        Path (f a) after (.ok b) := by
  rw [path_bind]
  constructor
  · rintro (⟨e, -, he⟩ | h)
    · cases he
    · exact h
  · exact Or.inr

/-! ### What is asked, and how often -/

/-- Every question on every path is of the kind `p`, and no path asks more than `n` questions of
the kind `c`. -/
def Within (p : Q → Prop) (c : Q → Bool) (n : ℕ) (x : Dialogue A ε α) : Prop :=
  ∀ log r, Path x log r → (∀ e ∈ log, p e.1) ∧ log.countP (fun e => c e.1) ≤ n

namespace Within

variable {p p' : Q → Prop} {c : Q → Bool} {n k : ℕ}

theorem mono (h : Within p c n x) (hp : ∀ q, p q → p' q) (hle : n ≤ k) : Within p' c k x := by
  intro log r hpath
  obtain ⟨hall, hcount⟩ := h log r hpath
  exact ⟨fun e he => hp e.1 (hall e he), Nat.le_trans hcount hle⟩

theorem of_nil (h : ∀ log r, Path x log r → log = []) : Within p c n x := by
  intro log r hpath
  rw [h log r hpath]
  exact ⟨fun e he => absurd he List.not_mem_nil, Nat.zero_le n⟩

theorem done (r : Except ε α) : Within p c n (done r : Dialogue A ε α) :=
  of_nil fun _ _ h => (path_done.mp h).1

theorem pure (a : α) : Within p c n (Pure.pure a : Dialogue A ε α) := done _
theorem lift (y : Except ε α) : Within p c n (liftM y : Dialogue A ε α) := done _
theorem throw (e : ε) : Within p c n (throw e : Dialogue A ε α) := done _

/-- Any question counts at most once. -/
theorem question_one {q : Q} (hq : p q) : Within p c 1 (question q : Dialogue A ε (A q)) := by
  intro log r h
  obtain ⟨answer, rfl, -⟩ := path_question.mp h
  exact ⟨List.forall_mem_singleton.mpr hq, List.countP_le_length⟩

/-- A question that does not count. -/
theorem question {q : Q} (hq : p q) (hc : c q = false) :
    Within p c n (question q : Dialogue A ε (A q)) := by
  intro log r h
  obtain ⟨answer, rfl, -⟩ := path_question.mp h
  rw [List.countP_singleton, hc]
  exact ⟨List.forall_mem_singleton.mpr hq, Nat.zero_le n⟩

/-- The second part is looked at with the values the first can have. -/
theorem bind (hx : Within p c n x) (hf : ∀ a log, Path x log (.ok a) → Within p c k (f a)) :
    Within p c (n + k) (x >>= f) := by
  intro log r h
  rcases path_bind.mp h with ⟨e, he, -⟩ | ⟨a, before, after, rfl, ha, h'⟩
  · obtain ⟨hall, hcount⟩ := hx log _ he
    exact ⟨hall, Nat.le_trans hcount (Nat.le_add_right n k)⟩
  · obtain ⟨hall, hcount⟩ := hx before _ ha
    obtain ⟨hall', hcount'⟩ := hf a before ha after r h'
    rw [List.countP_append]
    exact ⟨fun e he => (List.mem_append.mp he).elim (hall e) (hall' e),
      Nat.add_le_add hcount hcount'⟩

/-- Where the first part asks nothing that counts, the second alone counts. -/
theorem bind_right (hx : Within p c 0 x)
    (hf : ∀ a log, Path x log (.ok a) → Within p c k (f a)) : Within p c k (x >>= f) :=
  (hx.bind hf).mono (fun _ h => h) (Nat.le_of_eq (Nat.zero_add k))

theorem ite {b : Prop} [Decidable b] {y : Dialogue A ε α} (hx : b → Within p c n x)
    (hy : ¬ b → Within p c n y) : Within p c n (if b then x else y) := by
  split
  · next h => exact hx h
  · next h => exact hy h

end Within

/-! ### Surroundings with a state -/

section Run

variable {σ : Type} (h : (q : Q) → σ → A q × σ)

/-- What the dialogue comes to, and the state it leaves. -/
def run : Dialogue A ε α → σ → Except ε α × σ
  | done r, s => (r, s)
  | ask q next, s => run (next (h q s).1) (h q s).2

/-- The questions of a run with their answers. -/
def transcript : Dialogue A ε α → σ → Log A
  | done _, _ => []
  | ask q next, s => ⟨q, (h q s).1⟩ :: transcript (next (h q s).1) (h q s).2

variable {h}

/-- A run is a path. -/
theorem path_run (x : Dialogue A ε α) (s : σ) : Path x (transcript h x s) (run h x s).1 := by
  induction x generalizing s with
  | done r => exact .done r
  | ask q next ih => exact .ask _ (ih _ _)

end Run

end Dialogue
