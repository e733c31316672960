import DualKey.Foundations.Footprint
import Mathlib.Data.List.Perm.Basic

/-!
# Schedules

A *schedule* is a list of actions that run one after the other. Some pairs of actions depend
on each other; the others may be swapped where they meet. The file answers when two schedules
of the same actions come to the same.

* `SwapEquiv D u v`: the schedule `v` arises from `u` by swapping neighbours that do not
  depend on each other.
* `SameOrder D u v`: seen through any two letters that depend on each other, `u` and `v` are
  one list. The two notions agree (`swapEquiv_iff_sameOrder`): the order of dependent pairs is
  all there is to a schedule.
* `Independent act out a b`: two actions commute, and neither changes the outcome of the other.
  Swap-equivalent schedules then end in one state (`SwapEquiv.final_eq`), and each action has
  the same outcomes in both (`SwapEquiv.traces`).

A family of actions with footprints on a store is independent wherever no footprint meets the
writes of another (`independent_of_footprint`), and a group of actions that is independent of
all others sees the store as if the others were not there (`Apart.final_eqOn`).
-/

namespace Schedule

/-! ### Schedules as words -/

section Words

variable {ι : Type*} {D : ι → ι → Prop} {u v w : List ι}

/-- Two schedules that differ by swaps of independent neighbours. -/
inductive SwapEquiv (D : ι → ι → Prop) : List ι → List ι → Prop where
  | nil : SwapEquiv D [] []
  | cons (a : ι) {u v : List ι} (h : SwapEquiv D u v) : SwapEquiv D (a :: u) (a :: v)
  | swap (a b : ι) (w : List ι) (h : ¬ D a b) (h' : ¬ D b a) :
      SwapEquiv D (a :: b :: w) (b :: a :: w)
  | trans {u v w : List ι} (h : SwapEquiv D u v) (h' : SwapEquiv D v w) : SwapEquiv D u w

namespace SwapEquiv

@[refl]
theorem refl (w : List ι) : SwapEquiv D w w := by
  induction w with
  | nil => exact nil
  | cons a w ih => exact cons a ih

/-- An action moves back, past actions independent of it. -/
theorem move_back (a : ι) (p w : List ι) (h : ∀ b ∈ p, ¬ D a b ∧ ¬ D b a) :
    SwapEquiv D (a :: (p ++ w)) (p ++ a :: w) := by
  induction p with
  | nil => exact refl _
  | cons b p ih =>
    obtain ⟨hab, hba⟩ := h b List.mem_cons_self
    exact trans (swap a b (p ++ w) hab hba)
      (cons b (ih fun c hc => h c (List.mem_cons_of_mem b hc)))

/-- A selection no two letters of which may be swapped is the same list in both. -/
theorem filter_eq {p : ι → Bool} (hp : ∀ a b, p a = true → p b = true → a ≠ b → D a b ∨ D b a)
    (h : SwapEquiv D u v) : u.filter p = v.filter p := by
  induction h with
  | nil => rfl
  | cons a _ ih => rw [List.filter_cons, List.filter_cons, ih]
  | swap a b w h h' =>
    by_cases hne : a = b
    · rw [hne]
    · cases ha : p a <;> cases hb : p b <;> simp only [List.filter_cons, ha, hb, if_true] <;>
        try rfl
      rcases hp a b ha hb hne with hab | hba
      · exact absurd hab h
      · exact absurd hba h'
  | trans _ _ ih ih' => exact ih.trans ih'

end SwapEquiv

/-- A schedule falls into a group and the rest when the two sides may be swapped. -/
theorem swapEquiv_split (p : ι → Bool) (w : List ι) :
    SwapEquiv (fun a b => p a = p b) w (w.filter p ++ w.filter fun a => !p a) := by
  induction w with
  | nil => exact .nil
  | cons a w ih =>
    cases ha : p a with
    | true =>
      rw [List.filter_cons_of_pos ha,
        List.filter_cons_of_neg (by rw [ha]; exact Bool.false_ne_true)]
      exact .cons a ih
    | false =>
      rw [List.filter_cons_of_neg (by rw [ha]; exact Bool.false_ne_true),
        List.filter_cons_of_pos (by rw [ha]; rfl)]
      refine .trans (.cons a ih) (SwapEquiv.move_back a _ _ ?_)
      intro b hb
      have hpb : p b = true := (List.mem_filter.mp hb).2
      rw [ha, hpb]
      exact ⟨Bool.false_ne_true, Bool.false_ne_true.symm⟩

variable [DecidableEq ι]

/-- A schedule seen through two letters. -/
def project (a b : ι) (w : List ι) : List ι := w.filter fun x => decide (x = a ∨ x = b)

theorem project_cons_self (a b : ι) (w : List ι) : project a b (a :: w) = a :: project a b w :=
  List.filter_cons_of_pos (by simp)

theorem project_cons_of_ne {a b c : ι} (ha : c ≠ a) (hb : c ≠ b) (w : List ι) :
    project a b (c :: w) = project a b w :=
  List.filter_cons_of_neg (by simp [ha, hb])

theorem project_append (a b : ι) (u v : List ι) :
    project a b (u ++ v) = project a b u ++ project a b v := List.filter_append ..

/-- Two schedules order every two letters that depend on each other alike. -/
def SameOrder (D : ι → ι → Prop) (u v : List ι) : Prop :=
  ∀ a b, D a b → project a b u = project a b v

theorem SwapEquiv.sameOrder (h : SwapEquiv D u v) : SameOrder D u v := by
  intro a b hab
  refine h.filter_eq ?_
  intro x y hx hy hne
  rcases of_decide_eq_true hx with rfl | rfl <;> rcases of_decide_eq_true hy with rfl | rfl
  · exact absurd rfl hne
  · exact Or.inl hab
  · exact Or.inr hab
  · exact absurd rfl hne

namespace SameOrder

/-- The first letter of one schedule occurs in the other. -/
theorem mem_of_cons {a : ι} (hrefl : ∀ a, D a a) (h : SameOrder D (a :: u) v) : a ∈ v := by
  have hproject := h a a (hrefl a)
  rw [project_cons_self] at hproject
  have hmem : a ∈ project a a v := by
    rw [← hproject]
    exact List.mem_cons_self
  exact (List.mem_filter.mp hmem).1

/-- What stands before its first occurrence there does not depend on it. -/
theorem independent_of_prefix {a b : ι} {p q : List ι} (h : SameOrder D (a :: u) (p ++ a :: q))
    (ha : a ∉ p) (hb : b ∈ p) : ¬ D a b := by
  intro hab
  have hproject := h a b hab
  rw [project_cons_self, project_append] at hproject
  -- through `a` and `b` the second schedule starts with a letter of `p`
  have hmem : b ∈ project a b p := List.mem_filter.mpr ⟨hb, by simp⟩
  cases hp : project a b p with
  | nil =>
    rw [hp] at hmem
    exact absurd hmem List.not_mem_nil
  | cons c t =>
    rw [hp, List.cons_append] at hproject
    obtain ⟨rfl, -⟩ := List.cons.inj hproject
    have hc : a ∈ project a b p := by
      rw [hp]
      exact List.mem_cons_self
    exact ha (List.mem_filter.mp hc).1

theorem symm_pair (h : SameOrder D u v) : SameOrder (fun a b => D b a) u v := by
  intro a b hba
  have hcomm (w : List ι) : project a b w = project b a w := by
    unfold project
    simp only [or_comm]
  rw [hcomm, hcomm]
  exact h b a hba

/-- Without the first letter and its first occurrence the schedules still agree. -/
theorem tail {a : ι} {p q : List ι} (h : SameOrder D (a :: u) (p ++ a :: q)) (ha : a ∉ p) :
    SameOrder D u (p ++ q) := by
  intro b c hbc
  have hproject := h b c hbc
  rw [project_append] at hproject ⊢
  by_cases hab : a = b ∨ a = c
  · -- `a` is one of the two letters, so nothing of `p` is seen through them
    have hcons (w : List ι) : project b c (a :: w) = a :: project b c w :=
      List.filter_cons_of_pos (by simpa using hab)
    have hp : project b c p = [] := by
      refine List.filter_eq_nil_iff.mpr ?_
      intro x hx hxbc
      have hne : x ≠ a := fun hxa => ha (hxa ▸ hx)
      rcases hab with rfl | rfl
      · obtain rfl := (of_decide_eq_true hxbc).resolve_left hne
        exact h.independent_of_prefix ha hx hbc
      · obtain rfl := (of_decide_eq_true hxbc).resolve_right hne
        exact h.symm_pair.independent_of_prefix ha hx hbc
    rw [hp, hcons, hcons, List.nil_append] at hproject
    rw [hp, List.nil_append]
    exact (List.cons.inj hproject).2
  · obtain ⟨hb, hc⟩ := not_or.mp hab
    rw [project_cons_of_ne hb hc, project_cons_of_ne hb hc] at hproject
    exact hproject

end SameOrder

/-- Schedules that order dependent letters alike differ by independent swaps. The induction is
on the first schedule: its first letter is brought to the front of the second. -/
theorem SwapEquiv.of_sameOrder (hrefl : ∀ a, D a a) (h : SameOrder D u v) : SwapEquiv D u v := by
  induction u generalizing v with
  | nil =>
    cases v with
    | nil => exact .nil
    | cons b v =>
      have hproject := h b b (hrefl b)
      rw [project_cons_self] at hproject
      exact absurd hproject (List.cons_ne_nil _ _).symm
  | cons a u ih =>
    obtain ⟨p, q, rfl, ha⟩ := List.eq_append_cons_of_mem (h.mem_of_cons hrefl)
    have hfront : SwapEquiv D (a :: (p ++ q)) (p ++ a :: q) := by
      refine move_back a p q ?_
      intro b hb
      exact ⟨h.independent_of_prefix ha hb, h.symm_pair.independent_of_prefix ha hb⟩
    exact .trans (.cons a (ih (h.tail ha))) hfront

/-- **The order of dependent pairs decides a schedule up to independent swaps.** -/
theorem swapEquiv_iff_sameOrder (hrefl : ∀ a, D a a) : SwapEquiv D u v ↔ SameOrder D u v :=
  ⟨SwapEquiv.sameOrder, SwapEquiv.of_sameOrder hrefl⟩

end Words

/-! ### Running a schedule -/

section Actions

variable {ι σ β : Type*} (act : ι → σ → σ) (out : ι → σ → β)

/-- The state a schedule leaves. -/
def final : σ → List ι → σ
  | s, [] => s
  | s, a :: w => final (act a s) w

/-- The actions of a schedule with their outcomes. -/
def trace : σ → List ι → List (ι × β)
  | _, [] => []
  | s, a :: w => (a, out a s) :: trace (act a s) w

/-- Two actions commute, and each has the outcome it has without the other before it. -/
structure Independent (a b : ι) : Prop where
  state : ∀ s, act b (act a s) = act a (act b s)
  left : ∀ s, out a (act b s) = out a s
  right : ∀ s, out b (act a s) = out b s

variable {act out} {D : ι → ι → Prop} {u v w : List ι}

theorem final_append (s : σ) (u v : List ι) :
    final act s (u ++ v) = final act (final act s u) v := by
  induction u generalizing s with
  | nil => rfl
  | cons a u ih => exact ih (act a s)

theorem trace_append (s : σ) (u v : List ι) :
    trace act out s (u ++ v) = trace act out s u ++ trace act out (final act s u) v := by
  induction u generalizing s with
  | nil => rfl
  | cons a u ih => exact congrArg _ (ih (act a s))

/-- The actions of a trace are those of the schedule. -/
theorem map_fst_trace (s : σ) (w : List ι) : (trace act out s w).map Prod.fst = w := by
  induction w generalizing s with
  | nil => rfl
  | cons a w ih => exact congrArg _ (ih (act a s))

theorem fst_mem_of_trace {s : σ} {x : ι × β} (h : x ∈ trace act out s w) : x.1 ∈ w := by
  have hmem : x.1 ∈ (trace act out s w).map Prod.fst := List.mem_map_of_mem h
  rwa [map_fst_trace] at hmem

/-- A property no action of the schedule changes is kept. -/
theorem final_induction {I : σ → Prop} {s : σ} (h₀ : I s) (h : ∀ a ∈ w, ∀ s, I s → I (act a s)) :
    I (final act s w) := by
  induction w generalizing s with
  | nil => exact h₀
  | cons a w ih =>
    exact ih (h a List.mem_cons_self s h₀) fun b hb => h b (List.mem_cons_of_mem a hb)

theorem SwapEquiv.final_eq (hD : ∀ a b, ¬ D a b → Independent act out a b)
    (h : SwapEquiv D u v) (s : σ) : final act s u = final act s v := by
  induction h generalizing s with
  | nil => rfl
  | cons a _ ih => exact ih (act a s)
  | swap a b w hab _ => exact congrArg (fun t => final act t w) ((hD a b hab).state s)
  | trans _ _ ih ih' => exact (ih s).trans (ih' s)

/-- The traces of swap-equivalent schedules are swap-equivalent: the outcomes move with the
actions. -/
theorem SwapEquiv.traces (hD : ∀ a b, ¬ D a b → Independent act out a b) (h : SwapEquiv D u v)
    (s : σ) : SwapEquiv (fun x y => D x.1 y.1) (trace act out s u) (trace act out s v) := by
  induction h generalizing s with
  | nil => exact .nil
  | cons a _ ih => exact .cons _ (ih (act a s))
  | swap a b w hab hba =>
    have hind := hD a b hab
    simp only [trace]
    rw [hind.right s, hind.left s, hind.state s]
    exact .swap _ _ _ hab hba
  | trans _ _ ih ih' => exact .trans (ih s) (ih' s)

/-- A group independent of the other actions has the outcomes it has alone. -/
theorem trace_filter_group {p : ι → Bool}
    (hp : ∀ a b, ¬ p a = p b → Independent act out a b) (s : σ) (w : List ι) :
    (trace act out s w).filter (fun x => p x.1) = trace act out s (w.filter p) := by
  have hswap := (swapEquiv_split p w).traces hp s
  have hsame : ∀ x y : ι × β, p x.1 = true → p y.1 = true → x ≠ y →
      p x.1 = p y.1 ∨ p y.1 = p x.1 := fun x y hx hy _ => Or.inl (hx.trans hy.symm)
  rw [hswap.filter_eq hsame, trace_append, List.filter_append]
  -- the group keeps all its actions, the rest has none of them
  have hgroup : (trace act out s (w.filter p)).filter (fun x => p x.1) =
      trace act out s (w.filter p) :=
    List.filter_eq_self.mpr fun x hx => (List.mem_filter.mp (fst_mem_of_trace hx)).2
  have hrest (t : σ) : (trace act out t (w.filter fun a => !p a)).filter (fun x => p x.1) = [] := by
    refine List.filter_eq_nil_iff.mpr ?_
    intro x hx hpx
    have hnot := (List.mem_filter.mp (fst_mem_of_trace hx)).2
    rw [hpx] at hnot
    exact Bool.false_ne_true hnot
  rw [hgroup, hrest, List.append_nil]

end Actions

/-! ### Schedules on a store -/

section Stores

variable {ι κ α ε : Type} {f : ι → (κ → α) → Res ε (κ → α)} {reads writes : ι → Set κ}

/-- Whether an action succeeds. -/
def succeeds (f : ι → (κ → α) → Res ε (κ → α)) (a : ι) (s : κ → α) : Bool := (f a s).isOk

/-- Actions whose writes avoid each other's footprint are independent. -/
theorem independent_of_footprint (hf : ∀ a, Footprint (f a) (reads a) (writes a)) {a b : ι}
    (hab : Disjoint (writes a) (reads b)) (hba : Disjoint (writes b) (reads a)) :
    Independent (fun a => runOrKeep (f a)) (succeeds f) a b where
  state s := (hf a).commute (hf b) hab hba s
  left s := ((hf a).agree_after (hf b) hba s).isOk
  right s := ((hf b).agree_after (hf a) hab s).isOk

/-- What no action of the schedule writes is left alone. -/
theorem final_eqOn_of_disjoint (hf : ∀ a, Footprint (f a) (reads a) (writes a)) {K : Set κ}
    {w : List ι} (hw : ∀ a ∈ w, Disjoint (writes a) K) (s : κ → α) :
    Set.EqOn (final (fun a => runOrKeep (f a)) s w) s K := by
  refine final_induction (I := fun t => Set.EqOn t s K) (Set.eqOn_refl s K) ?_
  intro a ha t ht
  have hkeep := ((hf a).runOrKeep_eqOn_compl t).mono (hw a ha).subset_compl_left
  exact hkeep.trans ht

/-- No action of the group writes what another one reads, or the other way round. -/
def Apart (reads writes : ι → Set κ) (p : ι → Bool) : Prop :=
  ∀ a b, p a = true → p b = false →
    Disjoint (writes a) (reads b) ∧ Disjoint (writes b) (reads a)

variable {p : ι → Bool}

theorem Apart.independent (hp : Apart reads writes p)
    (hf : ∀ a, Footprint (f a) (reads a) (writes a)) (a b : ι) (hne : ¬ p a = p b) :
    Independent (fun a => runOrKeep (f a)) (succeeds f) a b := by
  cases ha : p a <;> cases hb : p b
  · exact absurd (ha.trans hb.symm) hne
  · obtain ⟨hba, hab⟩ := hp b a hb ha
    exact independent_of_footprint hf hab hba
  · obtain ⟨hab, hba⟩ := hp a b ha hb
    exact independent_of_footprint hf hab hba
  · exact absurd (ha.trans hb.symm) hne

/-- A group apart from the other actions finds the store, where it reads, as if they had not
run. -/
theorem Apart.final_eqOn (hp : Apart reads writes p)
    (hf : ∀ a, Footprint (f a) (reads a) (writes a)) (s : κ → α) (w : List ι) {a : ι}
    (ha : p a = true) :
    Set.EqOn (final (fun a => runOrKeep (f a)) s w)
      (final (fun a => runOrKeep (f a)) s (w.filter p)) (reads a) := by
  rw [(swapEquiv_split p w).final_eq (hp.independent hf) s, final_append]
  refine final_eqOn_of_disjoint hf ?_ _
  intro b hb
  have hpb : (!p b) = true := (List.mem_filter.mp hb).2
  rw [Bool.not_eq_true'] at hpb
  exact (hp a b ha hpb).2

end Stores

end Schedule
