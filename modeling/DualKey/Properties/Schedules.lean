import DualKey.Properties.Isolation
import DualKey.Foundations.Schedule

/-!
# Schedules of submissions

Two submissions that share no writable account commute. This file carries the fact from pairs
to whole schedules, where submissions stand in any number and some of them depend on others:
only the order of those that share a writable account matters, and a group of submissions that
shares none with the others runs as if it were alone.
-/

namespace DualKey

open Schedule

variable {P : Platform} {ι : Type}

/-- Two submissions conflict: they are one and the same, or they share a writable account. -/
def Conflict (subs : ι → Invocation) (i j : ι) : Prop :=
  i = j ∨ ¬ ShareNoWritable (subs i) (subs j)

instance [DecidableEq ι] (subs : ι → Invocation) (i j : ι) : Decidable (Conflict subs i j) :=
  inferInstanceAs (Decidable (i = j ∨ ¬ ShareNoWritable (subs i) (subs j)))

/-- What a schedule's submissions come to, one after the other. -/
def outcomes (P : Platform) (subs : ι → Invocation) (m : Machine) (w : List ι) :
    List (ι × Label) :=
  w.zip ((replay P m (w.map subs)).map Transition.Edge.label)

/-- The label of a submission that succeeded or failed. -/
def labelOf (subs : ι → Invocation) (x : ι × Bool) : ι × Label :=
  (x.1, if x.2 then .executed (subs x.1) else .rejected (subs x.1))

section Store

variable (subs : ι → Invocation) (m : Machine) (w : List ι)

/-- The actions of a schedule on the accounts. -/
theorem onStore_footprint (i : ι) :
    Footprint ((subs i).onStore P) (listed (subs i).accounts) (writable (subs i).accounts) :=
  (subs i).footprint P

/-- The accounts after a replay are those its actions leave. -/
theorem replayed_accounts :
    (replayed P m (w.map subs)).accounts =
      final (fun i => runOrKeep ((subs i).onStore P)) m.accounts w := by
  induction w generalizing m with
  | nil => rfl
  | cons i w ih =>
    rw [List.map_cons, replayed, ih, submit_post_accounts]
    rfl

/-- The labels of a replay say which of its actions succeed. -/
theorem outcomes_eq :
    outcomes P subs m w =
      (trace (fun i => runOrKeep ((subs i).onStore P))
        (succeeds fun i => (subs i).onStore P) m.accounts w).map (labelOf subs) := by
  induction w generalizing m with
  | nil => rfl
  | cons i w ih =>
    have htail := ih (submit P m (subs i)).post
    rw [submit_post_accounts] at htail
    rw [outcomes, List.map_cons, replay, List.map_cons, List.zip_cons_cons, submit_label_eq, trace,
      List.map_cons, ← htail]
    rfl

/-- A selection of submissions, made before or after the labels are read. -/
theorem filter_map_labelOf (p : ι → Bool) (t : List (ι × Bool)) :
    (t.map (labelOf subs)).filter (fun x => p x.1) =
      (t.filter fun x => p x.1).map (labelOf subs) := by
  rw [List.filter_map]
  rfl

end Store

section Independence

variable {subs : ι → Invocation} {i j : ι}

/-- Submissions that do not conflict are independent actions. -/
theorem independent_of_not_conflict (h : ¬ Conflict subs i j) :
    Independent (fun i => runOrKeep ((subs i).onStore P)) (succeeds fun i => (subs i).onStore P)
      i j := by
  obtain ⟨-, hshare⟩ := not_or.mp h
  rw [not_not] at hshare
  exact independent_of_footprint (onStore_footprint subs) hshare.disjoint hshare.symm.disjoint

/-- Schedules that order conflicting submissions alike leave the same accounts. -/
theorem replayed_accounts_eq [DecidableEq ι] {u v : List ι} (h : SameOrder (Conflict subs) u v)
    (m : Machine) :
    (replayed P m (u.map subs)).accounts = (replayed P m (v.map subs)).accounts := by
  have hswap : SwapEquiv (Conflict subs) u v := .of_sameOrder (fun _ => Or.inl rfl) h
  rw [replayed_accounts, replayed_accounts]
  exact hswap.final_eq (fun _ _ => independent_of_not_conflict) m.accounts

/-- Seen through two conflicting submissions, their outcomes are one list. -/
theorem outcomes_project_eq [DecidableEq ι] {u v : List ι} (h : SameOrder (Conflict subs) u v)
    (m : Machine) (hij : Conflict subs i j) :
    (outcomes P subs m u).filter (fun x => x.1 = i ∨ x.1 = j) =
      (outcomes P subs m v).filter (fun x => x.1 = i ∨ x.1 = j) := by
  have hswap : SwapEquiv (Conflict subs) u v := .of_sameOrder (fun _ => Or.inl rfl) h
  have htraces := hswap.traces (fun _ _ => independent_of_not_conflict (P := P)) m.accounts
  rw [outcomes_eq, outcomes_eq, filter_map_labelOf subs fun k => decide (k = i ∨ k = j),
    filter_map_labelOf subs fun k => decide (k = i ∨ k = j), htraces.filter_eq]
  intro x y hx hy _
  -- two of the selected actions conflict: they are `i` and `j`, or equal
  rcases of_decide_eq_true hx with hxi | hxj
  · rcases of_decide_eq_true hy with hyi | hyj
    · exact Or.inl (Or.inl (hxi.trans hyi.symm))
    · rw [hxi, hyj]
      exact Or.inl hij
  · rcases of_decide_eq_true hy with hyi | hyj
    · rw [hxj, hyi]
      exact Or.inr hij
    · exact Or.inl (Or.inl (hxj.trans hyj.symm))

/-- A group that shares no writable account with the other submissions is apart from them. -/
theorem apart_of_shareNoWritable {g : ι → Bool}
    (h : ∀ i j, g i = true → g j = false → ShareNoWritable (subs i) (subs j)) :
    Apart (fun i => listed (subs i).accounts) (fun i => writable (subs i).accounts) g := by
  intro i j hi hj
  exact ⟨(h i j hi hj).disjoint, (h i j hi hj).symm.disjoint⟩

end Independence

/-- **Schedules.** Of any family of submissions, two schedules that keep the order of every two
that share a writable account leave the same accounts, and every submission succeeds or fails
in the one as it does in the other. And in any schedule, a group that shares no writable
account with the rest fares as if it were submitted alone: same outcomes, and the accounts its
lists contain are the same in the end. -/
theorem schedule_independence (P : Platform) {ι : Type} [DecidableEq ι] (subs : ι → Invocation)
    (m : Machine) :
    (∀ u v : List ι, SameOrder (Conflict subs) u v →
      (replayed P m (u.map subs)).accounts = (replayed P m (v.map subs)).accounts ∧
      ∀ i j, Conflict subs i j →
        (outcomes P subs m u).filter (fun x => x.1 = i ∨ x.1 = j) =
          (outcomes P subs m v).filter (fun x => x.1 = i ∨ x.1 = j)) ∧
    (∀ (g : ι → Bool) (w : List ι),
      (∀ i j, g i = true → g j = false → ShareNoWritable (subs i) (subs j)) →
      (outcomes P subs m w).filter (fun x => g x.1) = outcomes P subs m (w.filter g) ∧
      ∀ i, g i = true →
        Set.EqOn (replayed P m (w.map subs)).accounts
          (replayed P m ((w.filter g).map subs)).accounts (listed (subs i).accounts)) := by
  refine ⟨?_, ?_⟩
  · intro u v h
    exact ⟨replayed_accounts_eq h m, fun i j hij => outcomes_project_eq h m hij⟩
  · intro g w h
    have hapart := apart_of_shareNoWritable h
    have hind := hapart.independent (onStore_footprint (P := P) subs)
    refine ⟨?_, ?_⟩
    · rw [outcomes_eq, outcomes_eq, filter_map_labelOf, trace_filter_group hind]
    · intro i hi
      rw [replayed_accounts, replayed_accounts]
      exact hapart.final_eqOn (onStore_footprint subs) m.accounts w hi

section Witness

open Sample

/-- Three submissions to `twoVaults`: two on the vault with a recovery config, which conflict,
and one on the other vault. -/
def threeSubmissions : Fin 3 → Invocation
  | 0 => enable
  | 1 => propose
  | 2 => spendPrivileged

/-- The transfer may go before the two others or after them; either way the proposal finds the
recovery enabled. -/
theorem schedule_independence_threeSubmissions :
    (replayed platform twoVaults [enable, propose, spendPrivileged]).accounts =
        (replayed platform twoVaults [spendPrivileged, enable, propose]).accounts ∧
      ((outcomes platform threeSubmissions twoVaults [0, 2, 1]).filter fun x => x.1 ≠ 2) =
        outcomes platform threeSubmissions twoVaults [0, 1] := by
  obtain ⟨horder, hgroup⟩ := schedule_independence platform threeSubmissions twoVaults
  have hsame : SameOrder (Conflict threeSubmissions) [0, 1, 2] [2, 0, 1] := by
    unfold SameOrder
    decide +kernel
  have hshare : ∀ i j : Fin 3, decide (i ≠ 2) = true → decide (j ≠ 2) = false →
      ShareNoWritable (threeSubmissions i) (threeSubmissions j) := by
    decide +kernel
  refine ⟨(horder [0, 1, 2] [2, 0, 1] hsame).1, ?_⟩
  exact (hgroup (fun i => decide (i ≠ 2)) [0, 2, 1] hshare).1

end Witness

end DualKey
