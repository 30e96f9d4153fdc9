import StackQuery.Counts.Basic

/-!
# Counting keys one by one

A tally that is fed a list of keys adds to each key the number of times it stands in the list, and its
keys stand in order of first occurrence: those it had, and then the new ones of the list.
-/
namespace StackQuery

section
variable {α β : Type} [BEq α] [LawfulBEq α]

theorem eraseDups_filter (p : α → Bool) (xs : List α) : (xs.filter p).eraseDups = xs.eraseDups.filter p := by
  match xs with
  | [] => rfl
  | x :: rest =>
    have ih := eraseDups_filter p (rest.filter fun y => !y == x)
    rw [@List.eraseDups_cons _ _ x rest, List.filter_cons, List.filter_cons, ← ih]
    by_cases hx : p x = true
    · rw [if_pos hx, if_pos hx, List.eraseDups_cons, List.filter_filter, List.filter_filter]
      simp only [Bool.and_comm]
    · rw [if_neg hx, if_neg hx, List.filter_filter]
      congr 1
      refine List.filter_congr fun y _ => ?_
      by_cases hy : y = x
      · simp [hy, hx]
      · simp [hy]
  termination_by xs.length
  decreasing_by
    have := List.length_filter_le (fun y => !y == x) rest
    simp only [List.length_cons]
    omega

theorem eraseDups_eq_self {xs : List α} (h : xs.Nodup) : xs.eraseDups = xs := by
  induction xs with
  | nil => rfl
  | cons x rest ih =>
    obtain ⟨hx, hrest⟩ := List.nodup_cons.mp h
    have hfilter : rest.filter (fun y => !y == x) = rest := by
      rw [List.filter_eq_self]
      intro y hy
      have hne : y ≠ x := fun heq => hx (heq ▸ hy)
      simp [hne]
    rw [List.eraseDups_cons, hfilter, ih hrest]

theorem nodup_eraseDups (xs : List α) : xs.eraseDups.Nodup := by
  match xs with
  | [] => exact List.nodup_nil
  | x :: rest =>
    rw [List.eraseDups_cons, List.nodup_cons]
    refine ⟨?_, nodup_eraseDups _⟩
    simp [List.mem_eraseDups]
  termination_by xs.length
  decreasing_by
    have := List.length_filter_le (fun y => !y == x) rest
    simp only [List.length_cons]
    omega

theorem count_eraseDups (xs : List α) (x : α) : xs.eraseDups.count x = if x ∈ xs then 1 else 0 := by
  rw [(nodup_eraseDups xs).count]
  simp only [List.mem_eraseDups]

/-- The first occurrences in two lists joined are known by those in each of them. -/
theorem eraseDups_append_congr {xs xs' ys ys' : List α} (hx : xs.eraseDups = xs'.eraseDups)
    (hy : ys.eraseDups = ys'.eraseDups) : (xs ++ ys).eraseDups = (xs' ++ ys').eraseDups := by
  have hmem (y : α) : y ∈ xs ↔ y ∈ xs' := by rw [← List.mem_eraseDups, hx, List.mem_eraseDups]
  have hnew : (ys.removeAll xs).eraseDups = (ys'.removeAll xs').eraseDups := by
    simp only [List.removeAll, eraseDups_filter, hy]
    refine List.filter_congr fun y _ => ?_
    simp only [List.elem_eq_mem, hmem y]
  rw [List.eraseDups_append, List.eraseDups_append, hx, hnew]

theorem eraseDups_append_singleton (xs : List α) (x : α) :
    (xs ++ [x]).eraseDups = if x ∈ xs then xs.eraseDups else xs.eraseDups ++ [x] := by
  rw [List.eraseDups_append]
  by_cases h : x ∈ xs <;> simp [List.removeAll, h, List.eraseDups_cons]

theorem eraseDups_eraseDups (xs : List α) : xs.eraseDups.eraseDups = xs.eraseDups :=
  eraseDups_eq_self (nodup_eraseDups xs)

/-- First occurrences in lists, each of which may be rid of its repetitions before they are joined. -/
theorem eraseDups_append_flatMap (xs : List α) (f : β → List α) (ls : List β) :
    (xs ++ ls.flatMap fun l => (f l).eraseDups).eraseDups = (xs ++ ls.flatMap f).eraseDups := by
  refine eraseDups_append_congr rfl ?_
  induction ls with
  | nil => rfl
  | cons l rest ih =>
    rw [List.flatMap_cons, List.flatMap_cons]
    exact eraseDups_append_congr (eraseDups_eraseDups (f l)) ih

theorem count_flatMap_eraseDups (f : β → List α) (ls : List β) (x : α) :
    (ls.flatMap fun l => (f l).eraseDups).count x = ls.countP fun l => x ∈ f l := by
  induction ls with
  | nil => rfl
  | cons l rest ih =>
    rw [List.flatMap_cons, List.count_append, count_eraseDups, ih, List.countP_cons, Nat.add_comm]
    simp only [decide_eq_true_eq]

end

/-- Keys in order of first occurrence stay in that order when one more is inserted. -/
theorem OrderedMap.keys_insert_eraseDups {κ ν : Type} [DecidableEq κ] [BEq κ] [LawfulBEq κ]
    {m : OrderedMap κ ν} {ks : List κ} (h : m.keys = ks.eraseDups) (k : κ) (v : ν) :
    (m.insert k v).keys = (ks ++ [k]).eraseDups := by
  rw [keys_insert, h, eraseDups_append_singleton]
  simp only [List.mem_eraseDups]

namespace Counts

theorem addEach_append {κ : Type} [DecidableEq κ] (t : Tally κ) (ks ls : List κ) :
    addEach t (ks ++ ls) = addEach (addEach t ks) ls :=
  List.foldl_append

variable {κ : Type} [DecidableEq κ] [BEq κ] [LawfulBEq κ]

theorem count_addEach (t : Tally κ) (keys : List κ) (k : κ) :
    (addEach t keys).count k = t.count k + keys.count k := by
  induction keys generalizing t with
  | nil => simp [addEach]
  | cons j rest ih =>
    change (addEach (t.add j 1) rest).count k = _
    rw [ih, Tally.count_add, List.count_cons]
    by_cases h : j = k
    · subst h
      simp
      omega
    · simp [h]

theorem keys_addEach (t : Tally κ) (keys : List κ) :
    OrderedMap.keys (addEach t keys) = (OrderedMap.keys t ++ keys).eraseDups := by
  have hkeys (t : Tally κ) : (OrderedMap.keys t).eraseDups = OrderedMap.keys t := eraseDups_eq_self t.nodup
  induction keys generalizing t with
  | nil => rw [List.append_nil, hkeys, addEach, List.foldl_nil]
  | cons k rest ih =>
    have hadd : OrderedMap.keys (t.add k 1) = (OrderedMap.keys t ++ [k]).eraseDups :=
      OrderedMap.keys_insert_eraseDups (hkeys t).symm k _
    change OrderedMap.keys (addEach (t.add k 1) rest) = _
    rw [ih, List.append_cons]
    refine eraseDups_append_congr ?_ rfl
    rw [hkeys, hadd]

end Counts

end StackQuery
