import StackQuery.Proofs.Counts.Same
import StackQuery.Metrics.Series

/-!
# Label sets and their texts

Labels given in any order are one label set exactly if they have the same values. The text of a label set can be read
back if no name has an equals sign and neither names nor values have a comma; other label sets may share a text.
-/
namespace StackQuery.Metrics

/-- Labels as they are given: the value of each name, in any order. No labels are the empty ones. -/
abbrev Labels := OrderedMap String String

def Labels.key (labels : Labels) : LabelKey := labelKey labels.entries

theorem labelKey_perm (pairs : List (String × String)) : (labelKey pairs).Perm pairs := List.mergeSort_perm pairs _

theorem pairwise_labelKey (pairs : List (String × String)) : (labelKey pairs).Pairwise fun a b => a.1 ≤ b.1 := by
  have htrans (a b c : String × String) : decide (a.1 ≤ b.1) = true → decide (b.1 ≤ c.1) = true →
      decide (a.1 ≤ c.1) = true := by
    simp only [decide_eq_true_eq]
    exact String.le_trans
  have htotal (a b : String × String) : (decide (a.1 ≤ b.1) || decide (b.1 ≤ a.1)) = true := by
    simp only [Bool.or_eq_true, decide_eq_true_eq]
    exact String.le_total a.1 b.1
  exact (List.pairwise_mergeSort htrans htotal pairs).imp of_decide_eq_true

theorem labelKey_labelKey (pairs : List (String × String)) : labelKey (labelKey pairs) = labelKey pairs :=
  List.mergeSort_of_pairwise ((pairwise_labelKey pairs).imp fun h => decide_eq_true h)

/-- Labels are one label set if they have the same values, whatever the order of their names. -/
theorem Labels.key_eq_iff {a b : Labels} : a.key = b.key ↔ ∀ name, a.get? name = b.get? name := by
  have hnodup (labels : Labels) : labels.entries.Nodup :=
    List.Pairwise.of_map Prod.fst (fun _ _ hne heq => hne (congrArg Prod.fst heq)) labels.nodup
  constructor
  · intro h name
    have hkey : a.key.Perm b.entries := h ▸ labelKey_perm b.entries
    have hperm : a.entries.Perm b.entries := (labelKey_perm a.entries).symm.trans hkey
    refine Option.ext fun value => ?_
    rw [OrderedMap.get?_eq_some_iff, OrderedMap.get?_eq_some_iff, hperm.mem_iff]
  · intro h
    have hperm : a.entries.Perm b.entries := by
      refine (List.perm_ext_iff_of_nodup (hnodup a) (hnodup b)).mpr fun e => ?_
      rw [← OrderedMap.get?_eq_some_iff, ← OrderedMap.get?_eq_some_iff, h]
    refine List.Perm.eq_of_pairwise (fun p q hp hq hpq hqp => ?_) (pairwise_labelKey a.entries)
      (pairwise_labelKey b.entries) ((labelKey_perm _).trans (hperm.trans (labelKey_perm _).symm))
    -- two pairs of one name are one pair
    have hname : p.1 = q.1 := String.le_antisymm hpq hqp
    have hp' := OrderedMap.get?_of_mem (hperm.mem_iff.mp ((labelKey_perm _).mem_iff.mp hp))
    have hq' := OrderedMap.get?_of_mem ((labelKey_perm _).mem_iff.mp hq)
    rw [hname, hq'] at hp'
    exact Prod.ext hname (Option.some.inj hp').symm

/-- A pair of name and value as it is written. -/
def pairChars (p : String × String) : List Char := p.1.toList ++ '=' :: p.2.toList

theorem toList_labelText (key : LabelKey) : (labelText key).toList = [','].intercalate (key.map pairChars) := by
  rw [labelText, String.toList_intercalate, List.map_map]
  congr 1
  refine List.map_congr_left fun p _ => ?_
  simp [pairChars]

/-- Names without equals signs and commas, and values without commas. -/
def Plain (key : LabelKey) : Prop := ∀ p ∈ key, '=' ∉ p.1.toList ∧ ',' ∉ p.1.toList ∧ ',' ∉ p.2.toList

/-- Reads a pair: the name is what stands before the first equals sign. -/
def readPair (cs : List Char) : String × String :=
  (String.ofList (cs.takeWhile (· != '=')), String.ofList ((cs.dropWhile (· != '=')).drop 1))

/-- Reads a label set: its pairs stand between commas. -/
def readLabels (text : String) : LabelKey :=
  if text.toList = [] then [] else (text.toList.splitOn ',').map readPair

theorem readPair_pairChars {p : String × String} (h : '=' ∉ p.1.toList) : readPair (pairChars p) = p := by
  have hname : ∀ c ∈ p.1.toList, (c != '=') = true := by
    intro c hc
    rw [bne_iff_ne]
    rintro rfl
    exact h hc
  rw [readPair, pairChars, List.takeWhile_append_of_pos hname, List.dropWhile_append_of_pos hname]
  simp

theorem readLabels_labelText {key : LabelKey} (h : Plain key) : readLabels (labelText key) = key := by
  cases key with
  | nil => rfl
  | cons p rest =>
    have hcommas : ∀ cs ∈ (p :: rest).map pairChars, ',' ∉ cs := by
      intro cs hcs
      obtain ⟨q, hq, rfl⟩ := List.mem_map.mp hcs
      obtain ⟨-, hname, hvalue⟩ := h q hq
      simp [pairChars, hname, hvalue]
    have hsplit := List.splitOn_intercalate ',' hcommas (by simp)
    have hnonempty : (labelText (p :: rest)).toList ≠ [] := by
      rw [toList_labelText]
      intro hnil
      rw [hnil] at hsplit
      simp [pairChars] at hsplit
    rw [readLabels, if_neg hnonempty, toList_labelText, hsplit, List.map_map]
    exact (List.map_congr_left fun q hq => readPair_pairChars (h q hq).1).trans (List.map_id _)

theorem labelText_inj {key key' : LabelKey} (h : Plain key) (h' : Plain key') (heq : labelText key = labelText key') :
    key = key' := by
  rw [← readLabels_labelText h, heq, readLabels_labelText h']

end StackQuery.Metrics
