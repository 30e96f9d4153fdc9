/-!
# Maps in order of insertion

A map is a list of entries with distinct keys. A new key comes last; a known key keeps its place and
takes the new value. Main statements: what `insert` and `erase` do to the keys and to look-ups.
-/
namespace StackQuery

/-- Entries with distinct keys, in the order in which the keys were first inserted. -/
structure OrderedMap (κ ν : Type) where
  entries : List (κ × ν)
  nodup : (entries.map Prod.fst).Nodup

namespace OrderedMap

variable {κ ν : Type} [DecidableEq κ]

def setEntry (k : κ) (v : ν) : List (κ × ν) → List (κ × ν)
  | [] => [(k, v)]
  | e :: rest => if e.1 = k then (k, v) :: rest else e :: setEntry k v rest

theorem keys_setEntry (k : κ) (v : ν) (es : List (κ × ν)) :
    (setEntry k v es).map Prod.fst =
      if k ∈ es.map Prod.fst then es.map Prod.fst else es.map Prod.fst ++ [k] := by
  induction es with
  | nil => simp [setEntry]
  | cons e rest ih =>
    by_cases h : e.1 = k
    · simp [setEntry, h]
    · have hk : k ≠ e.1 := fun hk => h hk.symm
      simp only [setEntry, h, if_false, List.map_cons, ih, List.mem_cons, hk, false_or]
      split <;> simp

theorem nodup_setEntry {k : κ} {v : ν} {es : List (κ × ν)} (h : (es.map Prod.fst).Nodup) :
    ((setEntry k v es).map Prod.fst).Nodup := by
  rw [keys_setEntry]
  split
  · exact h
  · rename_i hk
    rw [List.nodup_append]
    refine ⟨h, by simp, ?_⟩
    intro a ha b hb hab
    simp only [List.mem_singleton] at hb
    exact hk (hb ▸ hab ▸ ha)

def empty : OrderedMap κ ν := ⟨[], List.nodup_nil⟩

instance : Inhabited (OrderedMap κ ν) := ⟨empty⟩

def insert (m : OrderedMap κ ν) (k : κ) (v : ν) : OrderedMap κ ν :=
  ⟨setEntry k v m.entries, nodup_setEntry m.nodup⟩

def lookupEntry (k : κ) : List (κ × ν) → Option ν
  | [] => none
  | e :: rest => if e.1 = k then some e.2 else lookupEntry k rest

def get? (m : OrderedMap κ ν) (k : κ) : Option ν := lookupEntry k m.entries

def getD (m : OrderedMap κ ν) (k : κ) (default : ν) : ν := (m.get? k).getD default

def contains (m : OrderedMap κ ν) (k : κ) : Bool := (m.get? k).isSome

def erase (m : OrderedMap κ ν) (k : κ) : OrderedMap κ ν :=
  ⟨m.entries.filter (·.1 != k), m.nodup.sublist (List.filter_sublist.map Prod.fst)⟩

def keys (m : OrderedMap κ ν) : List κ := m.entries.map Prod.fst

def values (m : OrderedMap κ ν) : List ν := m.entries.map Prod.snd

def size (m : OrderedMap κ ν) : Nat := m.entries.length

def ofList (es : List (κ × ν)) : OrderedMap κ ν := es.foldl (fun m e => m.insert e.1 e.2) empty

def mapValues {μ : Type} (m : OrderedMap κ ν) (f : ν → μ) : OrderedMap κ μ :=
  ⟨m.entries.map fun e => (e.1, f e.2), by
    have : (m.entries.map fun e => (e.1, f e.2)).map Prod.fst = m.entries.map Prod.fst := by
      simp [Function.comp_def]
    rw [this]
    exact m.nodup⟩

def sameEntries [DecidableEq ν] (m n : OrderedMap κ ν) : Bool :=
  m.size == n.size && m.entries.all fun e => n.get? e.1 == some e.2

@[simp] theorem get?_empty (k : κ) : (empty : OrderedMap κ ν).get? k = none := rfl

theorem keys_insert (m : OrderedMap κ ν) (k : κ) (v : ν) :
    (m.insert k v).keys = if k ∈ m.keys then m.keys else m.keys ++ [k] :=
  keys_setEntry k v m.entries

theorem lookupEntry_setEntry (k : κ) (v : ν) (es : List (κ × ν)) (j : κ) :
    lookupEntry j (setEntry k v es) = if k = j then some v else lookupEntry j es := by
  induction es with
  | nil => simp [setEntry, lookupEntry]
  | cons e rest ih =>
    by_cases he : e.1 = k
    · by_cases h : k = j
      · simp [setEntry, lookupEntry, he, h]
      · simp [setEntry, lookupEntry, he, h]
    · by_cases h : e.1 = j
      · have hk : ¬ k = j := fun hk => he (h.trans hk.symm)
        simp only [setEntry, if_neg he, lookupEntry, if_pos h, if_neg hk]
      · simp [setEntry, lookupEntry, he, h, ih]

@[simp] theorem get?_insert (m : OrderedMap κ ν) (k : κ) (v : ν) (j : κ) :
    (m.insert k v).get? j = if k = j then some v else m.get? j :=
  lookupEntry_setEntry k v m.entries j

end OrderedMap

abbrev Tally (κ : Type) := OrderedMap κ Int

namespace Tally

variable {κ : Type} [DecidableEq κ]

/-- The count of a key; zero for a key that was never counted. -/
def count (t : Tally κ) (k : κ) : Int := OrderedMap.getD t k 0

def add (t : Tally κ) (k : κ) (n : Int) : Tally κ := OrderedMap.insert t k (t.count k + n)

def addAll (t u : Tally κ) : Tally κ := u.entries.foldl (fun t e => t.add e.1 e.2) t

/-- Entries by decreasing count; entries of one count stay in their order. -/
def ranked (t : Tally κ) : List (κ × Int) := t.entries.mergeSort fun a b => decide (b.2 ≤ a.2)

@[simp] theorem count_add (t : Tally κ) (k j : κ) (n : Int) :
    (t.add k n).count j = if k = j then t.count k + n else t.count j := by
  unfold count add OrderedMap.getD
  rw [OrderedMap.get?_insert]
  split <;> rfl

theorem keys_add (t : Tally κ) (k : κ) (n : Int) :
    OrderedMap.keys (t.add k n) =
      if k ∈ OrderedMap.keys t then OrderedMap.keys t else OrderedMap.keys t ++ [k] :=
  OrderedMap.keys_insert t k _

end Tally

end StackQuery
