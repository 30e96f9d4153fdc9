import StackQuery.Proofs.Counts.Merge
import StackQuery.Proofs.Counts.Weight
import Mathlib.Data.List.Perm.Subperm

/-!
# Counts whatever the order of their keys

Maps have the same entries when they agree on every key. Merging is associative with every key in its
place, and commutative but for the order of the keys; so contributions may be recorded in any order, and
counts that differ in the order of their keys may stand for each other.
-/
namespace StackQuery

namespace OrderedMap

variable {κ ν : Type} [DecidableEq κ]

theorem mem_keys_iff {m : OrderedMap κ ν} {k : κ} : k ∈ m.keys ↔ ∃ v, m.get? k = some v := by
  rw [← Option.ne_none_iff_exists', ne_eq, get?_eq_none_iff, not_not]

theorem get?_eq_some_iff {m : OrderedMap κ ν} {k : κ} {v : ν} : m.get? k = some v ↔ (k, v) ∈ m.entries := by
  constructor
  · intro h
    obtain ⟨e, he, rfl⟩ := List.mem_map.mp (mem_keys_iff.mpr ⟨v, h⟩)
    rw [get?_of_mem he] at h
    cases h
    exact he
  · exact fun he => get?_of_mem he

theorem sameEntries_iff [DecidableEq ν] {m n : OrderedMap κ ν} :
    m.sameEntries n = true ↔ ∀ k, m.get? k = n.get? k := by
  have hlength (m : OrderedMap κ ν) : m.keys.length = m.size := List.length_map Prod.fst
  simp only [sameEntries, Bool.and_eq_true, beq_iff_eq, List.all_eq_true]
  constructor
  · rintro ⟨hsize, hentries⟩ k
    have hsub : m.keys ⊆ n.keys := by
      intro j hj
      obtain ⟨e, he, rfl⟩ := List.mem_map.mp hj
      exact mem_keys_iff.mpr ⟨e.2, hentries e he⟩
    have hle : n.keys.length ≤ m.keys.length := by rw [hlength, hlength, hsize]
    have hperm : m.keys.Perm n.keys := (List.subperm_of_subset m.nodup hsub).perm_of_length_le hle
    cases hm : m.get? k with
    | none =>
      have hk : k ∉ n.keys := fun hk => get?_eq_none_iff.mp hm (hperm.mem_iff.mpr hk)
      exact (get?_eq_none_iff.mpr hk).symm
    | some v =>
      obtain ⟨e, he, rfl⟩ := List.mem_map.mp (mem_keys_iff.mpr ⟨v, hm⟩)
      rw [← hm, get?_of_mem he, hentries e he]
  · intro h
    have hmem (k : κ) : k ∈ m.keys ↔ k ∈ n.keys := by rw [mem_keys_iff, mem_keys_iff, h]
    have hperm : m.keys.Perm n.keys := (List.perm_ext_iff_of_nodup m.nodup n.nodup).mpr hmem
    constructor
    · rw [← hlength, ← hlength, hperm.length_eq]
    · intro e he
      rw [← h, get?_of_mem he]

end OrderedMap

namespace Tally

variable {κ : Type} [DecidableEq κ]

/-- What a tally gives for a key is known by whether it has the key, and by its count. -/
theorem get?_eq (t : Tally κ) (k : κ) :
    OrderedMap.get? t k = if k ∈ OrderedMap.keys t then some (t.count k) else none := by
  unfold count OrderedMap.getD
  cases hk : OrderedMap.get? t k with
  | none => rw [if_neg (OrderedMap.get?_eq_none_iff.mp hk)]
  | some n => rw [if_pos (OrderedMap.mem_keys_iff.mpr ⟨n, hk⟩), Option.getD_some]

theorem mem_keys_addAll {t u : Tally κ} {k : κ} :
    k ∈ OrderedMap.keys (t.addAll u) ↔ k ∈ OrderedMap.keys t ∨ k ∈ OrderedMap.keys u := by
  by_cases hk : k ∈ OrderedMap.keys t <;> simp [keys_addAll, hk]

theorem get?_addAll (t u : Tally κ) (k : κ) :
    OrderedMap.get? (t.addAll u) k =
      Option.merge (· + ·) (OrderedMap.get? t k) (OrderedMap.get? u k) := by
  have hcount (t : Tally κ) (h : k ∉ OrderedMap.keys t) : t.count k = 0 := by
    rw [count, OrderedMap.getD, OrderedMap.get?_eq_none_iff.mpr h, Option.getD_none]
  simp only [get?_eq, mem_keys_addAll, count_addAll]
  by_cases ht : k ∈ OrderedMap.keys t <;> by_cases hu : k ∈ OrderedMap.keys u <;> simp [ht, hu, hcount]

theorem addAll_assoc (t u v : Tally κ) : (t.addAll u).addAll v = t.addAll (u.addAll v) := by
  apply eq_of_keys_count
  · simp only [keys_addAll, List.filter_append, List.filter_filter, List.append_assoc]
    congr 2
    refine List.filter_congr fun k _ => ?_
    by_cases ht : k ∈ OrderedMap.keys t <;> simp [ht]
  · intro k
    simp only [count_addAll, Int.add_assoc]

end Tally

namespace Counts

/-- Counts are the same if the numbers of samples are, and every function, edge and stack has the same
count in both. -/
theorem same_iff {c d : Counts} :
    c.same d = true ↔
      c.total = d.total ∧ c.matched = d.matched ∧ (∀ f, c.functions.get? f = d.functions.get? f) ∧
        (∀ e, c.edges.get? e = d.edges.get? e) ∧ ∀ stack, c.stacks.get? stack = d.stacks.get? stack := by
  simp only [same, Bool.and_eq_true, beq_iff_eq, OrderedMap.sameEntries_iff, and_assoc]

theorem same_refl (c : Counts) : c.same c = true := by
  simp [same_iff]

theorem same_trans {c d e : Counts} (hcd : c.same d = true) (hde : d.same e = true) : c.same e = true := by
  rw [same_iff] at hcd hde ⊢
  obtain ⟨htotal, hmatched, hfunctions, hedges, hstacks⟩ := hcd
  simpa only [htotal, hmatched, hfunctions, hedges, hstacks] using hde

theorem merge_assoc (c d e : Counts) : (c.merge d).merge e = c.merge (d.merge e) := by
  simp only [merge, Tally.addAll_assoc, Int.add_assoc]

theorem merge_comm_same (c d : Counts) : (c.merge d).same (d.merge c) = true := by
  have hcomm {κ : Type} [DecidableEq κ] (t u : Tally κ) (k : κ) :
      OrderedMap.get? (t.addAll u) k = OrderedMap.get? (u.addAll t) k := by
    rw [Tally.get?_addAll, Tally.get?_addAll]
    cases OrderedMap.get? t k <;> cases OrderedMap.get? u k <;> simp [Option.merge, Int.add_comm]
  exact same_iff.mpr ⟨Int.add_comm _ _, Int.add_comm _ _, hcomm _ _, hcomm _ _, hcomm _ _⟩

theorem merge_congr_same {c c' d d' : Counts} (hc : c.same c' = true) (hd : d.same d' = true) :
    (c.merge d).same (c'.merge d') = true := by
  rw [same_iff] at hc hd ⊢
  obtain ⟨htotal, hmatched, hfunctions, hedges, hstacks⟩ := hc
  obtain ⟨htotal', hmatched', hfunctions', hedges', hstacks'⟩ := hd
  simp only [merge, Tally.get?_addAll, htotal, hmatched, hfunctions, hedges, hstacks, htotal', hmatched',
    hfunctions', hedges', hstacks', implies_true, and_self]

/-- Contributions recorded in another order: the induction exchanges neighbours, which are merged with
what is recorded after them. -/
theorem recordAll_perm_same {xs ys : List Contribution} (keepStacks : Bool) (h : xs.Perm ys) :
    (zero.recordAll keepStacks xs).same (zero.recordAll keepStacks ys) = true := by
  have hcons (x : Contribution) (rest : List Contribution) : zero.recordAll keepStacks (x :: rest) =
      (zero.record keepStacks x).merge (zero.recordAll keepStacks rest) := by
    rw [recordAll_cons, recordAll_eq_merge]
  induction h with
  | nil => exact same_refl _
  | cons x _ ih =>
    rw [hcons, hcons]
    exact merge_congr_same (same_refl _) ih
  | swap x y rest =>
    rw [hcons, hcons, hcons, hcons, ← merge_assoc, ← merge_assoc]
    exact merge_congr_same (merge_comm_same _ _) (same_refl _)
  | trans _ _ ihxy ihyz => exact same_trans ihxy ihyz

end Counts

end StackQuery
