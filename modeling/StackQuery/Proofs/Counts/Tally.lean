import StackQuery.Counts.OrderedMap

/-!
# Adding tallies

A map in order of insertion is known by its keys and by its look-ups. Adding a whole tally keeps the keys
of the first in place, appends the new keys of the second, and adds the counts; hence it commutes exactly,
order included, with counting one more key in the second tally.
-/
namespace StackQuery

namespace OrderedMap

variable {κ ν : Type} [DecidableEq κ]

theorem lookupEntry_eq_none_iff {k : κ} {es : List (κ × ν)} :
    lookupEntry k es = none ↔ k ∉ es.map Prod.fst := by
  induction es with
  | nil => simp [lookupEntry]
  | cons e rest ih =>
    by_cases h : e.1 = k
    · simp [lookupEntry, h]
    · have hk : k ≠ e.1 := fun hk => h hk.symm
      simp only [lookupEntry, if_neg h, ih, List.map_cons, List.mem_cons, hk, false_or]

theorem get?_eq_none_iff {m : OrderedMap κ ν} {k : κ} : m.get? k = none ↔ k ∉ m.keys :=
  lookupEntry_eq_none_iff

theorem getD_insert (m : OrderedMap κ ν) (k : κ) (v : ν) (j : κ) (default : ν) :
    (m.insert k v).getD j default = if k = j then v else m.getD j default := by
  rw [getD, get?_insert]
  split <;> rfl

theorem lookupEntry_filter_ne (k : κ) (es : List (κ × ν)) (j : κ) :
    lookupEntry j (es.filter (·.1 != k)) = if k = j then none else lookupEntry j es := by
  induction es with
  | nil => simp [lookupEntry]
  | cons e rest ih =>
    by_cases he : e.1 = k
    · rw [List.filter_cons_of_neg (by simp [he]), ih, lookupEntry, he]
      split <;> rfl
    · rw [List.filter_cons_of_pos (by simp [he]), lookupEntry, lookupEntry, ih]
      by_cases hj : e.1 = j
      · have hk : k ≠ j := fun hk => he (hj.trans hk.symm)
        rw [if_pos hj, if_pos hj, if_neg hk]
      · rw [if_neg hj, if_neg hj]

theorem getD_erase (m : OrderedMap κ ν) (k j : κ) (default : ν) :
    (m.erase k).getD j default = if k = j then default else m.getD j default := by
  rw [getD, get?, erase, lookupEntry_filter_ne]
  split <;> rfl

theorem mem_keys_erase {m : OrderedMap κ ν} {k j : κ} : j ∈ (m.erase k).keys ↔ j ∈ m.keys ∧ j ≠ k := by
  simp [keys, erase]

theorem entries_eq_of_lookup {es fs : List (κ × ν)} (hes : (es.map Prod.fst).Nodup)
    (hkeys : es.map Prod.fst = fs.map Prod.fst)
    (hlookup : ∀ k, lookupEntry k es = lookupEntry k fs) : es = fs := by
  induction es generalizing fs with
  | nil =>
    cases fs with
    | nil => rfl
    | cons f fs => simp at hkeys
  | cons e es ih =>
    cases fs with
    | nil => simp at hkeys
    | cons f fs =>
      obtain ⟨k, v⟩ := e
      obtain ⟨j, w⟩ := f
      simp only [List.map_cons, List.cons.injEq] at hkeys
      obtain ⟨rfl, hrest⟩ := hkeys
      have hk : k ∉ es.map Prod.fst := (List.nodup_cons.mp hes).1
      have hv : v = w := by simpa [lookupEntry] using hlookup k
      have htail : es = fs := by
        refine ih (List.nodup_cons.mp hes).2 hrest fun i => ?_
        by_cases hi : k = i
        · subst i
          rw [lookupEntry_eq_none_iff.mpr hk, lookupEntry_eq_none_iff.mpr (hrest ▸ hk)]
        · simpa [lookupEntry, hi] using hlookup i
      rw [hv, htail]

theorem eq_of_keys_get? {m n : OrderedMap κ ν} (hkeys : m.keys = n.keys)
    (hget : ∀ k, m.get? k = n.get? k) : m = n := by
  obtain ⟨es, hes⟩ := m
  obtain ⟨fs, hfs⟩ := n
  have h : es = fs := entries_eq_of_lookup hes hkeys hget
  subst h
  rfl

end OrderedMap

namespace Tally

open OrderedMap (lookupEntry)

variable {κ : Type} [DecidableEq κ]

theorem mem_keys_add {t : Tally κ} {k j : κ} {n : Int} :
    j ∈ OrderedMap.keys (t.add k n) ↔ j ∈ OrderedMap.keys t ∨ j = k := by
  rw [keys_add]
  split
  · next hk => exact ⟨.inl, fun h => h.elim id fun hj => hj ▸ hk⟩
  · simp

theorem eq_of_keys_count {t u : Tally κ} (hkeys : OrderedMap.keys t = OrderedMap.keys u)
    (hcount : ∀ k, t.count k = u.count k) : t = u := by
  refine OrderedMap.eq_of_keys_get? hkeys fun k => ?_
  have hc := hcount k
  unfold count OrderedMap.getD at hc
  cases ht : OrderedMap.get? t k with
  | none =>
    have hk : k ∉ OrderedMap.keys u := hkeys ▸ OrderedMap.get?_eq_none_iff.mp ht
    rw [OrderedMap.get?_eq_none_iff.mpr hk]
  | some n =>
    cases hu : OrderedMap.get? u k with
    | none =>
      have hk : k ∉ OrderedMap.keys t := hkeys ▸ OrderedMap.get?_eq_none_iff.mp hu
      rw [OrderedMap.get?_eq_none_iff.mpr hk] at ht
      cases ht
    | some m =>
      rw [ht, hu] at hc
      exact congrArg some hc

theorem count_foldl_add (t : Tally κ) {es : List (κ × Int)} (h : (es.map Prod.fst).Nodup) (k : κ) :
    Tally.count (es.foldl (fun t e => Tally.add t e.1 e.2) t) k =
      t.count k + (lookupEntry k es).getD 0 := by
  induction es generalizing t with
  | nil => simp [lookupEntry]
  | cons e rest ih =>
    have he : e.1 ∉ rest.map Prod.fst := (List.nodup_cons.mp h).1
    rw [List.foldl_cons, ih (t.add e.1 e.2) (List.nodup_cons.mp h).2, count_add]
    by_cases hk : e.1 = k
    · subst hk
      simp [lookupEntry, OrderedMap.lookupEntry_eq_none_iff.mpr he]
    · simp [lookupEntry, hk]

theorem keys_foldl_add (t : Tally κ) {es : List (κ × Int)} (h : (es.map Prod.fst).Nodup) :
    OrderedMap.keys (es.foldl (fun t e => Tally.add t e.1 e.2) t) =
      OrderedMap.keys t ++ (es.map Prod.fst).filter (· ∉ OrderedMap.keys t) := by
  induction es generalizing t with
  | nil => simp
  | cons e rest ih =>
    have he : e.1 ∉ rest.map Prod.fst := (List.nodup_cons.mp h).1
    rw [List.foldl_cons, ih (t.add e.1 e.2) (List.nodup_cons.mp h).2, keys_add]
    by_cases hk : e.1 ∈ OrderedMap.keys t
    · simp [hk]
    · have hfilter : (rest.map Prod.fst).filter (· ∉ OrderedMap.keys t ++ [e.1]) =
          (rest.map Prod.fst).filter (· ∉ OrderedMap.keys t) := by
        refine List.filter_congr fun j hj => ?_
        have hj : j ≠ e.1 := fun hje => he (hje ▸ hj)
        simp [hj]
      simp only [if_neg hk, hfilter]
      simp [hk]

@[simp] theorem count_addAll (t u : Tally κ) (k : κ) : (t.addAll u).count k = t.count k + u.count k :=
  count_foldl_add t u.nodup k

theorem keys_addAll (t u : Tally κ) :
    OrderedMap.keys (t.addAll u) =
      OrderedMap.keys t ++ (OrderedMap.keys u).filter (· ∉ OrderedMap.keys t) :=
  keys_foldl_add t u.nodup

/-- Counting a key in the second of two tallies counts it in both together. -/
theorem addAll_add (t u : Tally κ) (k : κ) (n : Int) : t.addAll (u.add k n) = (t.addAll u).add k n := by
  apply eq_of_keys_count
  · rw [keys_add, keys_addAll, keys_addAll, keys_add]
    by_cases hu : k ∈ OrderedMap.keys u
    · by_cases ht : k ∈ OrderedMap.keys t <;> simp [hu, ht]
    · by_cases ht : k ∈ OrderedMap.keys t <;> simp [hu, ht]
  · intro j
    rw [count_addAll, count_add, count_add, count_addAll, count_addAll]
    by_cases h : k = j
    · subst j
      rw [if_pos rfl, if_pos rfl]
      omega
    · rw [if_neg h, if_neg h]

end Tally

end StackQuery
