import StackQuery.Proofs.Counts.Each
import StackQuery.Proofs.Counts.Tally
import Mathlib.Algebra.GroupWithZero.Nat
import Mathlib.Algebra.Order.BigOperators.Group.List
import Mathlib.Algebra.Ring.Int.Defs

/-!
# Weights

A measure of the entries of a map, added up over the map, changes with an insertion by what the entry of
that key measures before and after. The weight of a tally is the sum of the counts of the keys that pass a
test; it adds up with the tallies.
-/
namespace StackQuery

namespace OrderedMap

variable {κ ν : Type}

/-- A measure of the entries, added up. -/
def sumBy (m : OrderedMap κ ν) (measure : κ → ν → Int) : Int :=
  (m.entries.map fun e => measure e.1 e.2).sum

theorem sumBy_congr {m : OrderedMap κ ν} {measure measure' : κ → ν → Int}
    (h : ∀ e ∈ m.entries, measure e.1 e.2 = measure' e.1 e.2) : m.sumBy measure = m.sumBy measure' :=
  congrArg List.sum (List.map_congr_left h)

variable [DecidableEq κ]

/-- The measure of the entry of a key, zero if there is none. -/
def measureAt (m : OrderedMap κ ν) (measure : κ → ν → Int) (k : κ) : Int :=
  ((m.get? k).map (measure k)).getD 0

variable (measure : κ → ν → Int)

theorem sum_setEntry (k : κ) (v : ν) (es : List (κ × ν)) :
    ((setEntry k v es).map fun e => measure e.1 e.2).sum + ((lookupEntry k es).map (measure k)).getD 0 =
      (es.map fun e => measure e.1 e.2).sum + measure k v := by
  induction es with
  | nil => simp [setEntry, lookupEntry]
  | cons e rest ih =>
    by_cases h : e.1 = k
    · simp only [setEntry, lookupEntry, h, if_true, List.map_cons, List.sum_cons, Option.map_some,
        Option.getD_some]
      omega
    · simp only [setEntry, lookupEntry, h, if_false, List.map_cons, List.sum_cons]
      omega

theorem sumBy_insert (m : OrderedMap κ ν) (k : κ) (v : ν) :
    (m.insert k v).sumBy measure = m.sumBy measure + measure k v - m.measureAt measure k := by
  have h := sum_setEntry measure k v m.entries
  simp only [sumBy, measureAt, insert, get?]
  omega

theorem sum_filter_ne {k : κ} {es : List (κ × ν)} (h : (es.map Prod.fst).Nodup) :
    ((es.filter (·.1 != k)).map fun e => measure e.1 e.2).sum + ((lookupEntry k es).map (measure k)).getD 0 =
      (es.map fun e => measure e.1 e.2).sum := by
  induction es with
  | nil => simp [lookupEntry]
  | cons e rest ih =>
    obtain ⟨he, hrest⟩ := List.nodup_cons.mp h
    by_cases hk : e.1 = k
    · have hnone : lookupEntry k rest = none := lookupEntry_eq_none_iff.mpr (hk ▸ he)
      have hsum := ih hrest
      rw [hnone] at hsum
      simp only [lookupEntry, hk, bne_self_eq_false, if_true, Bool.false_eq_true, not_false_eq_true,
        List.filter_cons_of_neg, Option.map_some, Option.map_none, Option.getD_some, Option.getD_none,
        List.map_cons, List.sum_cons] at hsum ⊢
      omega
    · have hsum := ih hrest
      simp only [lookupEntry, hk, if_false, bne_iff_ne, ne_eq, not_false_eq_true, List.filter_cons_of_pos,
        List.map_cons, List.sum_cons] at hsum ⊢
      omega

theorem sumBy_erase (m : OrderedMap κ ν) (k : κ) :
    (m.erase k).sumBy measure = m.sumBy measure - m.measureAt measure k := by
  have h := sum_filter_ne measure (k := k) m.nodup
  simp only [sumBy, measureAt, erase, get?]
  omega

theorem lookupEntry_of_mem {e : κ × ν} {es : List (κ × ν)} (h : (es.map Prod.fst).Nodup) (he : e ∈ es) :
    lookupEntry e.1 es = some e.2 := by
  induction es with
  | nil => cases he
  | cons first rest ih =>
    obtain ⟨hfirst, hrest⟩ := List.nodup_cons.mp h
    rcases List.mem_cons.mp he with rfl | he
    · simp [lookupEntry]
    · have hne : first.1 ≠ e.1 := fun heq => hfirst (heq ▸ List.mem_map_of_mem he)
      simp only [lookupEntry, if_neg hne, ih hrest he]

theorem get?_of_mem {m : OrderedMap κ ν} {e : κ × ν} (he : e ∈ m.entries) : m.get? e.1 = some e.2 :=
  lookupEntry_of_mem m.nodup he

theorem get?_mapValues {μ : Type} (m : OrderedMap κ ν) (f : ν → μ) (k : κ) :
    (m.mapValues f).get? k = (m.get? k).map f := by
  have hlookup (es : List (κ × ν)) :
      lookupEntry k (es.map fun e => (e.1, f e.2)) = (lookupEntry k es).map f := by
    induction es with
    | nil => rfl
    | cons e rest ih =>
      by_cases h : e.1 = k
      · simp [lookupEntry, h]
      · simp [lookupEntry, h, ih]
  exact hlookup m.entries

theorem sumBy_single (m : OrderedMap κ ν) (k : κ) (measure : ν → Int) :
    m.sumBy (fun j v => if j = k then measure v else 0) = ((m.get? k).map measure).getD 0 := by
  have herase : (m.erase k).sumBy (fun j v => if j = k then measure v else 0) = 0 := by
    refine List.sum_eq_zero fun x hx => ?_
    obtain ⟨e, he, rfl⟩ := List.mem_map.mp hx
    have hne : e.1 ≠ k := by simpa using (List.mem_filter.mp he).2
    exact if_neg hne
  have hsum := sumBy_erase (fun j v => if j = k then measure v else 0) m k
  have hat : m.measureAt (fun j v => if j = k then measure v else 0) k = ((m.get? k).map measure).getD 0 := by
    rw [measureAt]
    cases m.get? k <;> simp
  omega

end OrderedMap

namespace Tally

variable {κ : Type}

/-- The counts of the keys that pass a test, added up. -/
def weight (t : Tally κ) (test : κ → Bool) : Int := OrderedMap.sumBy t fun k n => if test k then n else 0

theorem weight_never (t : Tally κ) : t.weight (fun _ => false) = 0 := by
  simp [weight, OrderedMap.sumBy]

theorem natAbs_weight_le (t : Tally κ) (test : κ → Bool) :
    (t.weight test).natAbs ≤ (t.entries.map fun e => e.2.natAbs).sum := by
  have hsum (es : List (κ × Int)) :
      (es.map fun e : κ × Int => if test e.1 then e.2 else 0).sum.natAbs ≤ (es.map fun e => e.2.natAbs).sum := by
    induction es with
    | nil => exact Nat.le_refl 0
    | cons e rest ih =>
      rw [List.map_cons, List.sum_cons, List.map_cons, List.sum_cons]
      split <;> omega
  exact hsum t.entries

theorem ranked_perm (t : Tally κ) : t.ranked.Perm t.entries := List.mergeSort_perm _ _

theorem pairwise_ranked (t : Tally κ) : t.ranked.Pairwise fun a b => b.2 ≤ a.2 := by
  have htrans (a b c : κ × Int) : decide (b.2 ≤ a.2) = true → decide (c.2 ≤ b.2) = true →
      decide (c.2 ≤ a.2) = true := by
    simp only [decide_eq_true_eq]
    omega
  have htotal (a b : κ × Int) : (decide (b.2 ≤ a.2) || decide (a.2 ≤ b.2)) = true := by
    simp only [Bool.or_eq_true, decide_eq_true_eq]
    omega
  exact (List.pairwise_mergeSort htrans htotal t.entries).imp of_decide_eq_true

variable [DecidableEq κ]

theorem count_of_mem {t : Tally κ} {e : κ × Int} (he : e ∈ t.entries) : t.count e.1 = e.2 := by
  rw [count, OrderedMap.getD, OrderedMap.get?_of_mem he]
  rfl

theorem mem_entries_iff {t : Tally κ} {e : κ × Int} :
    e ∈ t.entries ↔ e.1 ∈ OrderedMap.keys t ∧ t.count e.1 = e.2 := by
  constructor
  · exact fun he => ⟨List.mem_map_of_mem he, count_of_mem he⟩
  · rintro ⟨hkey, hcount⟩
    obtain ⟨e', he', hkey⟩ := List.mem_map.mp hkey
    rw [← hkey, count_of_mem he'] at hcount
    rwa [← Prod.ext hkey hcount]

@[simp] theorem weight_add (t : Tally κ) (k : κ) (n : Int) (test : κ → Bool) :
    (t.add k n).weight test = t.weight test + if test k then n else 0 := by
  rw [add, weight, OrderedMap.sumBy_insert, OrderedMap.measureAt, count, OrderedMap.getD, ← weight]
  cases OrderedMap.get? t k <;> cases test k <;> simp
  omega

theorem weight_foldl_add (t : Tally κ) (es : List (κ × Int)) (test : κ → Bool) :
    weight (es.foldl (fun t e => Tally.add t e.1 e.2) t) test =
      t.weight test + (es.map fun e => if test e.1 then e.2 else 0).sum := by
  induction es generalizing t with
  | nil => simp
  | cons e rest ih =>
    rw [List.foldl_cons, ih, weight_add, List.map_cons, List.sum_cons, Int.add_assoc]

@[simp] theorem weight_addAll (t u : Tally κ) (test : κ → Bool) :
    (t.addAll u).weight test = t.weight test + u.weight test :=
  weight_foldl_add t u.entries test

theorem weight_addEach (t : Tally κ) (keys : List κ) (test : κ → Bool) :
    weight (Counts.addEach t keys) test = t.weight test + keys.countP test := by
  induction keys generalizing t with
  | nil => simp [Counts.addEach]
  | cons k rest ih =>
    change weight (Counts.addEach (t.add k 1) rest) test = _
    rw [ih, weight_add, List.countP_cons]
    cases test k <;> simp
    omega

theorem weight_eq_count (t : Tally κ) (k : κ) : t.weight (· = k) = t.count k := by
  have hsum := OrderedMap.sumBy_single t k id
  simpa [weight, count, OrderedMap.getD] using hsum

def Nonneg (t : Tally κ) : Prop := ∀ k, 0 ≤ t.count k

theorem weight_mono {t : Tally κ} (h : t.Nonneg) {test weaker : κ → Bool}
    (himp : ∀ k, test k = true → weaker k = true) : t.weight test ≤ t.weight weaker := by
  refine List.sum_le_sum fun e he => ?_
  have hcount : 0 ≤ e.2 := count_of_mem he ▸ h e.1
  change (if test e.1 then e.2 else 0) ≤ if weaker e.1 then e.2 else 0
  by_cases ht : test e.1 = true
  · rw [if_pos ht, if_pos (himp _ ht)]
  · rw [if_neg ht]
    split
    · exact hcount
    · exact Int.le_refl 0

end Tally

end StackQuery
