import StackQuery.Proofs.Counts.Weight

/-!
# Rankings

A ranking of a tally has its entries by decreasing count, and entries of one count in the order in which their
keys were first seen. A tally has one ranking only, and a sort by the negated count and then by the place gives
it. The ranking of some of the keys is what the whole ranking has of them.
-/
namespace StackQuery.Tally

variable {κ : Type}

/-- The order by the negated count, and then by the place. -/
def keyLE (a b : (κ × Int) × Nat) : Bool := decide (-a.1.2 < -b.1.2 ∨ -a.1.2 = -b.1.2 ∧ a.2 ≤ b.2)

theorem keyLE_trans (a b c : (κ × Int) × Nat) : keyLE a b = true → keyLE b c = true → keyLE a c = true := by
  simp only [keyLE, decide_eq_true_eq]
  omega

theorem keyLE_total (a b : (κ × Int) × Nat) : (keyLE a b || keyLE b a) = true := by
  simp only [keyLE, Bool.or_eq_true, decide_eq_true_eq]
  omega

/-- A stable sort by decreasing count sorts by the negated count and the place. -/
theorem ranked_eq_map_mergeSort (t : Tally κ) : t.ranked = (t.entries.zipIdx.mergeSort keyLE).map Prod.fst := by
  have hkey : List.zipIdxLE (fun a b : κ × Int => decide (b.2 ≤ a.2)) = keyLE := by
    funext a b
    rw [List.zipIdxLE, keyLE, Bool.eq_iff_iff]
    by_cases hab : b.1.2 ≤ a.1.2 <;> by_cases hba : a.1.2 ≤ b.1.2 <;> simp [hab, hba] <;> omega
  rw [← hkey]
  exact List.mergeSort_zipIdx.symm

variable [DecidableEq κ]

/-- An entry stands before another: its count is greater, or it is the same and its key was seen first. -/
def Before (t : Tally κ) (a b : κ × Int) : Prop :=
  b.2 < a.2 ∨ a.2 = b.2 ∧ t.keys.idxOf a.1 < t.keys.idxOf b.1

instance (t : Tally κ) (a b : κ × Int) : Decidable (t.Before a b) :=
  inferInstanceAs (Decidable (b.2 < a.2 ∨ a.2 = b.2 ∧ t.keys.idxOf a.1 < t.keys.idxOf b.1))

/-- All entries of a tally, each before those behind it. -/
structure IsRanking (t : Tally κ) (ranking : List (κ × Int)) : Prop where
  perm : ranking.Perm t.entries
  ordered : ranking.Pairwise t.Before

variable {t : Tally κ} {ranking : List (κ × Int)}

theorem Before.asymm {a b : κ × Int} (h : t.Before a b) : ¬ t.Before b a := by
  unfold Before at h ⊢
  omega

theorem idxOf_of_mem_zipIdx {a : (κ × Int) × Nat} (ha : a ∈ t.entries.zipIdx) : t.keys.idxOf a.1.1 = a.2 := by
  have hkey : t.keys[a.2]? = some a.1.1 := by
    rw [OrderedMap.keys, List.getElem?_map, List.mem_zipIdx_iff_getElem?.mp ha, Option.map_some]
  obtain ⟨hlt, hkey⟩ := List.getElem?_eq_some_iff.mp hkey
  rw [← hkey]
  exact t.nodup.idxOf_getElem a.2 hlt

theorem isRanking_ranked (t : Tally κ) : t.IsRanking t.ranked := by
  refine ⟨t.ranked_perm, ?_⟩
  have hperm := List.mergeSort_perm t.entries.zipIdx keyLE
  have hsorted := List.pairwise_mergeSort keyLE_trans keyLE_total t.entries.zipIdx
  -- no two entries have one place, so the order of the sort is strict
  have hplaces : (t.entries.zipIdx.mergeSort keyLE).Pairwise fun a b => a.2 ≠ b.2 := by
    rw [← List.pairwise_map, ← List.Nodup, (hperm.map Prod.snd).nodup_iff, List.zipIdx_map_snd]
    exact List.nodup_range'
  rw [ranked_eq_map_mergeSort, List.pairwise_map]
  refine (hsorted.and hplaces).imp_of_mem fun {a b} ha hb hab => ?_
  obtain ⟨hle, hne⟩ := hab
  rw [Before, idxOf_of_mem_zipIdx (hperm.mem_iff.mp ha), idxOf_of_mem_zipIdx (hperm.mem_iff.mp hb)]
  simp only [keyLE, decide_eq_true_eq] at hle
  omega

theorem IsRanking.eq_ranked (h : t.IsRanking ranking) : ranking = t.ranked := by
  have hranked := t.isRanking_ranked
  refine List.Perm.eq_of_pairwise (fun a b _ _ hab hba => absurd hba hab.asymm) h.ordered hranked.ordered ?_
  exact h.perm.trans hranked.perm.symm

theorem idxOf_filter_lt {keys : List κ} {p : κ → Bool} {k j : κ} (hk : p k = true)
    (h : keys.idxOf k < keys.idxOf j) : (keys.filter p).idxOf k < (keys.filter p).idxOf j := by
  induction keys with
  | nil => simp at h
  | cons first rest ih =>
    by_cases hj : first = j
    · simp [hj] at h
    · by_cases hfirst : first = k
      · rw [List.filter_cons_of_pos (hfirst ▸ hk), List.idxOf_cons_ne _ hj, hfirst, List.idxOf_cons_self]
        exact Nat.succ_pos _
      · rw [List.idxOf_cons_ne _ hj, List.idxOf_cons_ne _ hfirst] at h
        rw [List.filter_cons]
        split
        · rw [List.idxOf_cons_ne _ hj, List.idxOf_cons_ne _ hfirst]
          exact Nat.succ_lt_succ (ih (Nat.lt_of_succ_lt_succ h))
        · exact ih (Nat.lt_of_succ_lt_succ h)

theorem ranked_of_filter {u : Tally κ} {p : κ → Bool} (hu : u.entries = t.entries.filter fun e => p e.1) :
    u.ranked = t.ranked.filter fun e => p e.1 := by
  have hranked := t.isRanking_ranked
  refine (IsRanking.eq_ranked (t := u) ⟨hu ▸ hranked.perm.filter _, ?_⟩).symm
  have hkeys : u.keys = t.keys.filter p := by
    rw [OrderedMap.keys, OrderedMap.keys, hu, List.filter_map]
    rfl
  refine (hranked.ordered.filter _).imp_of_mem fun {a b} ha _ hab => ?_
  rw [Before, hkeys]
  exact hab.imp_right (And.imp_right (idxOf_filter_lt (List.mem_filter.mp ha).2))

end StackQuery.Tally
