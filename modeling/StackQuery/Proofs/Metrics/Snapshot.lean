import StackQuery.Proofs.Counts.Listed
import StackQuery.Proofs.Metrics.Labels
import StackQuery.Proofs.Traversal
import Mathlib.Algebra.BigOperators.Group.List.Lemmas
import Mathlib.Data.List.Dedup

/-!
# Snapshots of a histogram

Each label set has the series of the values that were observed with it, in order. A snapshot shows the series by the
texts of their label sets; where sets share a text, only the last of them is shown, at the place of the first. So a
snapshot is whole exactly if no two of the observed label sets share a text.
-/
namespace StackQuery.Metrics

/-- A value that is observed under labels. -/
structure Observation where
  value : Number
  labels : Labels

namespace Histogram

/-- The histogram of observations that are made one after the other. -/
def ofObservations (os : List Observation) : Histogram :=
  os.foldl (fun h o => h.observe o.value o.labels.key) empty

/-- The label sets of observations, in order of first observation. -/
def labelSets (os : List Observation) : List LabelKey := (os.map fun o => o.labels.key).eraseDups

/-- The values that are observed with a label set. -/
def series (os : List Observation) (key : LabelKey) : List Number :=
  (os.filter fun o => o.labels.key = key).map Observation.value

variable {os : List Observation} {key : LabelKey}

theorem ofObservations_append_singleton (os : List Observation) (o : Observation) :
    ofObservations (os ++ [o]) = (ofObservations os).observe o.value o.labels.key :=
  List.foldl_append

theorem keys_ofObservations (os : List Observation) : (ofObservations os).observations.keys = labelSets os := by
  induction os using List.reverseRecOn with
  | nil => rfl
  | append_singleton os o ih =>
    rw [ofObservations_append_singleton, labelSets, List.map_append]
    exact OrderedMap.keys_insert_eraseDups ih o.labels.key _

/-- An observation is added to the series of its label set, and to no other. -/
theorem getD_ofObservations (os : List Observation) (key : LabelKey) :
    (ofObservations os).observations.getD key [] = series os key := by
  induction os using List.reverseRecOn with
  | nil => rfl
  | append_singleton os o ih =>
    rw [ofObservations_append_singleton, observe, OrderedMap.getD_insert, series, List.filter_append, List.map_append,
      ← series, ← ih]
    by_cases h : o.labels.key = key
    · rw [if_pos h, h]
      simp [h]
    · rw [if_neg h]
      simp [h]

theorem stats_ofObservations (os : List Observation) (key : LabelKey) :
    (ofObservations os).stats key = Stats.of (series os key) := by
  rw [stats, getD_ofObservations]

theorem nodup_labelSets : (labelSets os).Nodup := nodup_eraseDups _

theorem mem_labelSets : key ∈ labelSets os ↔ ∃ o ∈ os, o.labels.key = key := by
  rw [labelSets, List.mem_eraseDups, List.mem_map]

theorem length_series (os : List Observation) (key : LabelKey) :
    (series os key).length = (os.map fun o => o.labels.key).count key := by
  rw [series, List.length_map, ← List.countP_eq_length_filter, List.count, List.countP_map]
  refine List.countP_congr fun o _ => ?_
  simp

theorem sum_length_series (os : List Observation) :
    ((labelSets os).map fun key => (series os key).length).sum = os.length := by
  have hperm : (labelSets os).Perm (os.map fun o => o.labels.key).dedup := by
    refine (List.perm_ext_iff_of_nodup nodup_labelSets (List.nodup_dedup _)).mpr fun key => ?_
    rw [labelSets, List.mem_eraseDups, List.mem_dedup]
  have hcount := List.sum_map_count_dedup_eq_length (os.map fun o => o.labels.key)
  rw [lawful_beq_subsingleton instBEqOfDecidableEq List.instBEq, List.length_map, ← (hperm.map _).sum_eq] at hcount
  simpa only [length_series] using hcount

theorem count_of {values : List Number} {stats : Stats} (h : Stats.of values = .ok stats) :
    stats.count = values.length := by
  cases values with
  | nil =>
    cases h
    rfl
  | cons first rest =>
    obtain ⟨sum, -, h⟩ := bind_eq_ok_iff.mp h
    obtain ⟨mean, -, h⟩ := bind_eq_ok_iff.mp h
    cases h
    rfl

theorem exists_allStats_error_iff :
    (∃ e, (ofObservations os).allStats = .error e) ↔
      ∃ o ∈ os, ∃ e, Stats.of (series os o.labels.key) = .error e := by
  have hpair (key : LabelKey) :
      (∃ e, (do return (labelText key, ← (ofObservations os).stats key) : Except ArithmeticError (String × Stats)) =
        .error e) ↔ ∃ e, Stats.of (series os key) = .error e := by
    rw [exists_bind_error_iff, stats_ofObservations]
    refine or_iff_left ?_
    rintro ⟨_, _, _, ⟨⟩⟩
  rw [allStats, exists_bind_error_iff, exists_mapM_error_iff, keys_ofObservations]
  simp only [hpair, mem_labelSets]
  constructor
  · rintro (⟨key, ⟨o, ho, rfl⟩, h⟩ | ⟨_, _, _, ⟨⟩⟩)
    exact ⟨o, ho, h⟩
  · rintro ⟨o, ho, h⟩
    exact .inl ⟨o.labels.key, ⟨o, ho, rfl⟩, h⟩

/-- A snapshot is the map of the texts and statistics of the label sets. -/
theorem allStats_eq_ok {snapshot : OrderedMap String Stats} (h : (ofObservations os).allStats = .ok snapshot) :
    ∃ stats : LabelKey → Stats, (∀ key ∈ labelSets os, Stats.of (series os key) = .ok (stats key)) ∧
      snapshot = OrderedMap.ofList ((labelSets os).map fun key => (labelText key, stats key)) := by
  rw [allStats, keys_ofObservations] at h
  obtain ⟨entries, hentries, h⟩ := bind_eq_ok_iff.mp h
  have hstats : ∀ key ∈ labelSets os, ∃ s, Stats.of (series os key) = .ok s := by
    intro key hkey
    obtain ⟨entry, hentry⟩ := exists_mapM_iff.mp ⟨entries, hentries⟩ key hkey
    obtain ⟨s, hs, -⟩ := bind_eq_ok_iff.mp hentry
    exact ⟨s, (stats_ofObservations os key).symm.trans hs⟩
  have hnonempty : Nonempty Stats := ⟨Stats.none⟩
  choose! stats hstats using hstats
  refine ⟨stats, hstats, ?_⟩
  have hmap : ((labelSets os).mapM fun key => do return (labelText key, ← (ofObservations os).stats key)) =
      .ok ((labelSets os).map fun key => (labelText key, stats key)) := by
    refine mapM_eq_ok_map fun key hkey => ?_
    rw [stats_ofObservations, hstats key hkey]
    rfl
  cases hentries.symm.trans hmap
  cases h
  rfl

/-- No two of the observed label sets share a text. -/
def TextsDiffer (os : List Observation) : Prop :=
  ∀ o ∈ os, ∀ p ∈ os, labelText o.labels.key = labelText p.labels.key → o.labels.key = p.labels.key

theorem textsDiffer_iff_nodup : TextsDiffer os ↔ ((labelSets os).map labelText).Nodup := by
  rw [List.nodup_map_iff_inj_on nodup_labelSets]
  simp only [TextsDiffer, mem_labelSets, forall_exists_index, and_imp, forall_apply_eq_imp_iff₂]

theorem textsDiffer_of_plain (h : ∀ o ∈ os, Plain o.labels.key) : TextsDiffer os :=
  fun o ho p hp heq => labelText_inj (h o ho) (h p hp) heq

theorem map_fst_entries (stats : LabelKey → Stats) :
    ((labelSets os).map fun key => (labelText key, stats key)).map Prod.fst = (labelSets os).map labelText := by
  rw [List.map_map]
  rfl

/-- The counts of all entries add up to the number of observations if no two label sets share a text. -/
theorem sum_counts_eq_iff {stats : LabelKey → Stats}
    (hstats : ∀ key ∈ labelSets os, Stats.of (series os key) = .ok (stats key)) :
    ((OrderedMap.ofList ((labelSets os).map fun key => (labelText key, stats key))).values.map Stats.count).sum =
      os.length ↔ TextsDiffer os := by
  have hcount : ∀ key ∈ labelSets os, (stats key).count = (series os key).length :=
    fun key hkey => count_of (hstats key hkey)
  have hpos : ∀ e ∈ (labelSets os).map fun key => (labelText key, stats key), (0 : Int) < e.2.count := by
    intro e he
    obtain ⟨key, hkey, rfl⟩ := List.mem_map.mp he
    obtain ⟨o, ho, rfl⟩ := mem_labelSets.mp hkey
    have hmem : o.value ∈ series os o.labels.key := List.mem_map_of_mem (by simpa using ho)
    have hlength := List.length_pos_of_mem hmem
    rw [← hcount _ hkey] at hlength
    exact_mod_cast hlength
  have hcast (es : List (String × Stats)) :
      (es.map fun e => (e.2.count : Int)).sum = ((es.map Prod.snd).map Stats.count).sum := by
    induction es with
    | nil => rfl
    | cons e rest ih =>
      simp only [List.map_cons, List.sum_cons, ih]
      omega
  have hwhole := OrderedMap.sumBy_ofList_eq_iff (fun (_ : String) (s : Stats) => (s.count : Int)) hpos
  have htotal : (((labelSets os).map fun key => (labelText key, stats key)).map Prod.snd |>.map Stats.count).sum =
      os.length := by
    rw [List.map_map, List.map_map, ← sum_length_series]
    exact congrArg List.sum (List.map_congr_left hcount)
  rw [OrderedMap.sumBy, hcast, hcast, htotal, Nat.cast_inj, map_fst_entries] at hwhole
  rw [textsDiffer_iff_nodup]
  exact hwhole

/-- A snapshot is whole exactly if no two of the observed label sets share a text, and plain labels never do. There is
a snapshot if every series has statistics. It shows the texts of the label sets in order of first observation; at
each text it shows the last label set of that text, with the statistics of exactly the values that were observed with
those labels, whatever the order of their names. So it has an entry for every label set, and its counts add up to the
number of observations, if and only if the texts differ. -/
theorem snapshot_whole_iff_texts_differ (os : List Observation) :
    (∀ a b : Labels, a.key = b.key ↔ ∀ name, a.get? name = b.get? name) ∧
    ((∃ e, (ofObservations os).allStats = .error e) ↔
      ∃ o ∈ os, ∃ e, Stats.of (series os o.labels.key) = .error e) ∧
    ((∀ o ∈ os, Plain o.labels.key) → TextsDiffer os) ∧
    ∀ snapshot, (ofObservations os).allStats = .ok snapshot → ∃ stats : LabelKey → Stats,
      (∀ key ∈ labelSets os, Stats.of (series os key) = .ok (stats key) ∧
        (ofObservations os).stats (labelKey key) = .ok (stats key)) ∧
      snapshot.keys = ((labelSets os).map labelText).eraseDups ∧
      (∀ before key later, labelSets os = before ++ key :: later → labelText key ∉ later.map labelText →
        snapshot.get? (labelText key) = some (stats key)) ∧
      (snapshot.entries = ((labelSets os).map fun key => (labelText key, stats key)) ↔ TextsDiffer os) ∧
      ((snapshot.values.map Stats.count).sum = os.length ↔ TextsDiffer os) := by
  refine ⟨fun _ _ => Labels.key_eq_iff, exists_allStats_error_iff, textsDiffer_of_plain, fun snapshot h => ?_⟩
  obtain ⟨stats, hstats, rfl⟩ := allStats_eq_ok h
  refine ⟨stats, fun key hkey => ⟨hstats key hkey, ?_⟩, ?_, ?_, ?_, sum_counts_eq_iff hstats⟩
  · obtain ⟨o, -, rfl⟩ := mem_labelSets.mp hkey
    rw [Labels.key, labelKey_labelKey, stats_ofObservations]
    exact hstats _ hkey
  · rw [OrderedMap.keys_ofList, map_fst_entries]
  · intro before key later hsets hlast
    have hentries : (labelSets os).map (fun key => (labelText key, stats key)) =
        before.map (fun key => (labelText key, stats key)) ++ (labelText key, stats key) ::
          later.map fun key => (labelText key, stats key) := by
      rw [hsets, List.map_append, List.map_cons]
    refine OrderedMap.get?_ofList hentries ?_
    rwa [List.map_map]
  · rw [textsDiffer_iff_nodup, ← map_fst_entries stats]
    constructor
    · intro hentries
      rw [← hentries]
      exact OrderedMap.nodup _
    · exact OrderedMap.entries_ofList

/-- A value with a comma and an equals sign reads like two labels, and its series is lost. -/
theorem snapshot_whole_iff_texts_differ_comma :
    let os := [⟨.int 1, .ofList [("a", "1,b=2")]⟩, ⟨.int 2, .ofList [("b", "2"), ("a", "1")]⟩]
    labelSets os = [[("a", "1,b=2")], [("a", "1"), ("b", "2")]] ∧ ¬ TextsDiffer os ∧
    ∃ snapshot stats, (ofObservations os).allStats = .ok snapshot ∧ Stats.of [.int 2] = .ok stats ∧
      snapshot.keys = ["a=1,b=2"] ∧ snapshot.get? "a=1,b=2" = some stats ∧
      (snapshot.values.map Stats.count).sum ≠ 2 := by
  intro os
  have hone : Labels.key (.ofList [("a", "1,b=2")]) = [("a", "1,b=2")] := by
    simp [Labels.key, labelKey, OrderedMap.ofList, OrderedMap.insert, OrderedMap.empty, OrderedMap.setEntry]
  have htwo : Labels.key (.ofList [("b", "2"), ("a", "1")]) = [("a", "1"), ("b", "2")] := by
    simp [Labels.key, labelKey, List.mergeSort, OrderedMap.ofList, OrderedMap.insert, OrderedMap.empty,
      OrderedMap.setEntry]
  have hsets : labelSets os = [[("a", "1,b=2")], [("a", "1"), ("b", "2")]] := by
    rw [labelSets, List.map_cons, List.map_singleton, hone, htwo]
    decide
  have hshared : ¬ TextsDiffer os := by
    rw [textsDiffer_iff_nodup, hsets]
    decide
  have hfirst : series os [("a", "1,b=2")] = [.int 1] := by simp [series, os, hone, htwo]
  have hsecond : series os [("a", "1"), ("b", "2")] = [.int 2] := by simp [series, os, hone, htwo]
  obtain ⟨one, hone'⟩ : ∃ stats, Stats.of [.int 1] = .ok stats := ⟨_, by rfl⟩
  obtain ⟨two, htwo'⟩ : ∃ stats, Stats.of [.int 2] = .ok stats := ⟨_, by rfl⟩
  obtain ⟨-, herror, -, hok⟩ := snapshot_whole_iff_texts_differ os
  cases hsnapshot : (ofObservations os).allStats with
  | error e =>
    obtain ⟨o, ho, e, he⟩ := herror.mp ⟨e, hsnapshot⟩
    rcases List.mem_pair.mp ho with rfl | rfl
    · rw [hone, hfirst, hone'] at he
      cases he
    · rw [htwo, hsecond, htwo'] at he
      cases he
  | ok snapshot =>
    obtain ⟨stats, hseries, hkeys, hlast, -, hsum⟩ := hok snapshot hsnapshot
    obtain ⟨hstats, -⟩ := hseries [("a", "1"), ("b", "2")] (by simp [hsets])
    have hshown := hlast [[("a", "1,b=2")]] _ [] hsets (by simp)
    rw [hsecond] at hstats
    rw [hsets] at hkeys
    exact ⟨hsets, hshared, snapshot, _, rfl, hstats, hkeys.trans (by decide), hshown, fun h => hshared (hsum.mp h)⟩

end Histogram

end StackQuery.Metrics
