import StackQuery.Proofs.Counts.Weight
import Mathlib.Data.List.Induction

/-!
# Maps made of lists

A map made of a list of entries has the keys of the list in order of first occurrence, each with the last value that
the list has for it. So the map is the list if no key is repeated, and otherwise some entry of the list is lost.
-/
namespace StackQuery.OrderedMap

variable {κ ν : Type} [DecidableEq κ]

theorem setEntry_of_not_mem {k : κ} {v : ν} {es : List (κ × ν)} (h : k ∉ es.map Prod.fst) :
    setEntry k v es = es ++ [(k, v)] := by
  induction es with
  | nil => rfl
  | cons e rest ih =>
    rw [List.map_cons, List.mem_cons, not_or] at h
    rw [setEntry, if_neg fun heq => h.1 heq.symm, ih h.2, List.cons_append]

theorem entries_foldl_insert (m : OrderedMap κ ν) {es : List (κ × ν)}
    (h : (m.entries.map Prod.fst ++ es.map Prod.fst).Nodup) :
    (es.foldl (fun m e => m.insert e.1 e.2) m).entries = m.entries ++ es := by
  induction es generalizing m with
  | nil => simp
  | cons e rest ih =>
    have hnew : e.1 ∉ m.entries.map Prod.fst := fun hmem =>
      (List.nodup_append.mp h).2.2 e.1 hmem e.1 List.mem_cons_self rfl
    have hentries : (m.insert e.1 e.2).entries = m.entries ++ [e] := setEntry_of_not_mem hnew
    rw [List.foldl_cons, ih, hentries, List.append_assoc, List.singleton_append]
    rwa [hentries, List.map_append, List.append_assoc]

theorem entries_ofList {es : List (κ × ν)} (h : (es.map Prod.fst).Nodup) : (ofList es).entries = es :=
  entries_foldl_insert empty h

theorem ofList_append_singleton (es : List (κ × ν)) (e : κ × ν) :
    ofList (es ++ [e]) = (ofList es).insert e.1 e.2 :=
  List.foldl_append

theorem keys_ofList (es : List (κ × ν)) : (ofList es).keys = (es.map Prod.fst).eraseDups := by
  induction es using List.reverseRecOn with
  | nil => rfl
  | append_singleton es e ih =>
    rw [ofList_append_singleton, List.map_append]
    exact keys_insert_eraseDups ih e.1 e.2

theorem get?_ofList {es before after : List (κ × ν)} {e : κ × ν} (hes : es = before ++ e :: after)
    (hlast : e.1 ∉ after.map Prod.fst) : (ofList es).get? e.1 = some e.2 := by
  subst hes
  induction after using List.reverseRecOn with
  | nil => rw [ofList_append_singleton, get?_insert, if_pos rfl]
  | append_singleton after last ih =>
    rw [List.map_append, List.mem_append, not_or] at hlast
    have hne : last.1 ≠ e.1 := fun heq => hlast.2 (by simp [heq])
    rw [← List.cons_append, ← List.append_assoc, ofList_append_singleton, get?_insert, if_neg hne, ih hlast.1]

theorem mem_of_get?_ofList {es : List (κ × ν)} {k : κ} {v : ν} (h : (ofList es).get? k = some v) :
    (k, v) ∈ es := by
  induction es using List.reverseRecOn with
  | nil => cases h
  | append_singleton es e ih =>
    rw [ofList_append_singleton, get?_insert] at h
    split at h
    · next heq =>
      cases heq
      cases h
      exact List.mem_append_right es (List.mem_singleton_self e)
    · exact List.mem_append_left [e] (ih h)

section
variable {measure : κ → ν → Int} {es : List (κ × ν)}

theorem measureAt_ofList_nonneg (hpos : ∀ e ∈ es, 0 < measure e.1 e.2) (k : κ) :
    0 ≤ (ofList es).measureAt measure k := by
  rw [measureAt]
  cases hget : (ofList es).get? k with
  | none => exact Int.le_refl 0
  | some v => exact Int.le_of_lt (hpos _ (mem_of_get?_ofList hget))

theorem measureAt_ofList_pos (hpos : ∀ e ∈ es, 0 < measure e.1 e.2) {k : κ} (hk : k ∈ es.map Prod.fst) :
    0 < (ofList es).measureAt measure k := by
  rw [measureAt]
  cases hget : (ofList es).get? k with
  | none =>
    rw [get?_eq_none_iff, keys_ofList, List.mem_eraseDups] at hget
    exact absurd hk hget
  | some v => exact hpos _ (mem_of_get?_ofList hget)

theorem sumBy_ofList_le (hpos : ∀ e ∈ es, 0 < measure e.1 e.2) :
    (ofList es).sumBy measure ≤ (es.map fun e => measure e.1 e.2).sum := by
  induction es using List.reverseRecOn with
  | nil => exact Int.le_refl 0
  | append_singleton es e ih =>
    have hes : ∀ e ∈ es, 0 < measure e.1 e.2 := fun e' he' => hpos e' (List.mem_append_left _ he')
    have hsum := ih hes
    have hat := measureAt_ofList_nonneg hes e.1
    rw [ofList_append_singleton, sumBy_insert, List.map_append, List.sum_append, List.map_singleton,
      List.sum_singleton]
    omega

theorem sumBy_ofList_lt (hpos : ∀ e ∈ es, 0 < measure e.1 e.2) (h : ¬ (es.map Prod.fst).Nodup) :
    (ofList es).sumBy measure < (es.map fun e => measure e.1 e.2).sum := by
  induction es using List.reverseRecOn with
  | nil => exact absurd List.nodup_nil h
  | append_singleton es e ih =>
    have hes : ∀ e ∈ es, 0 < measure e.1 e.2 := fun e' he' => hpos e' (List.mem_append_left _ he')
    have hat := measureAt_ofList_nonneg hes e.1
    rw [ofList_append_singleton, sumBy_insert, List.map_append, List.sum_append, List.map_singleton,
      List.sum_singleton]
    by_cases hnodup : (es.map Prod.fst).Nodup
    · -- the last key is the one that is repeated, and its value replaces one that measured something
      have hmem : e.1 ∈ es.map Prod.fst := by
        by_contra hnew
        refine h ?_
        rw [List.map_append, List.map_singleton]
        refine List.nodup_append.mpr ⟨hnodup, by simp, ?_⟩
        rintro k hk _ hlast rfl
        exact hnew (List.mem_singleton.mp hlast ▸ hk)
      have hsum := sumBy_ofList_le hes
      have hpos := measureAt_ofList_pos hes hmem
      omega
    · have hsum := ih hes hnodup
      omega

/-- A list of entries that measure something is made a map without loss exactly if no key is repeated. -/
theorem sumBy_ofList_eq_iff (measure : κ → ν → Int) (hpos : ∀ e ∈ es, 0 < measure e.1 e.2) :
    (ofList es).sumBy measure = (es.map fun e => measure e.1 e.2).sum ↔ (es.map Prod.fst).Nodup := by
  constructor
  · intro h
    by_contra hnodup
    exact absurd h (Int.ne_of_lt (sumBy_ofList_lt hpos hnodup))
  · intro h
    rw [sumBy, entries_ofList h]

end

end StackQuery.OrderedMap
