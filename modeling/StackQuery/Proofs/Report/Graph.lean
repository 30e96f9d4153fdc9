import Mathlib.Data.List.Nodup
import StackQuery.Proofs.Counts.Listed
import StackQuery.Proofs.Report.Selection
import StackQuery.Report.Text

/-!
# Drawings of a report

A graph is written with an id for each function, looked up by its name. The ids are distinct, and since a report
has only edges between selected functions, no look-up fails.
-/
namespace StackQuery.Report

theorem escapeLabel_of_plain {cs : List Char} (h : ∀ c ∈ cs, c ≠ '\\' ∧ c ≠ '"') : escapeLabel cs = cs := by
  induction cs with
  | nil => rfl
  | cons c rest ih =>
    obtain ⟨hc, hrest⟩ := List.forall_mem_cons.mp h
    rw [escapeLabel, if_neg (not_or.mpr hc), ih hrest]

/-- A digit, or a character of a text that is no number. -/
def isPlainChar (c : Char) : Bool := c.isDigit || ['.', '-', '%', 'n', 'a', 'i', 'f'].contains c

theorem ne_of_isPlainChar {c : Char} (h : isPlainChar c = true) : c ≠ '\\' ∧ c ≠ '"' := by
  constructor <;> rintro rfl <;> revert h <;> decide

theorem isPlainChar_of_isDigit {c : Char} (h : c.isDigit = true) : isPlainChar c = true := by
  rw [isPlainChar, h, Bool.true_or]

theorem isPlainChar_of_mem_pointed {n places : Nat} {c : Char} (h : c ∈ Binary64.pointed n places) :
    isPlainChar c = true := by
  have hdigits {c : Char} (hc : c ∈ digits n) : isPlainChar c = true :=
    isPlainChar_of_isDigit (Nat.isDigit_of_mem_toDigits (by decide) (by decide) hc)
  have hpadded {c : Char} (k : Nat) (hc : c ∈ List.replicate k '0' ++ digits n) : isPlainChar c = true := by
    rcases List.mem_append.mp hc with hc | hc
    · rw [(List.mem_replicate.mp hc).2]
      decide
    · exact hdigits hc
  rw [Binary64.pointed] at h
  split at h
  · exact hdigits h
  · rcases List.mem_append.mp h with h | h
    · exact hpadded _ (List.mem_of_mem_take h)
    · rcases List.mem_cons.mp h with rfl | h
      · decide
      · exact hpadded _ (List.mem_of_mem_drop h)

theorem isPlainChar_of_mem_toFixed {x : Binary64} {places : Nat} {c : Char} (h : c ∈ (x.toFixed places).toList) :
    isPlainChar c = true := by
  cases x with
  | nan =>
    have hall : "nan".toList.all isPlainChar = true := by decide
    exact List.all_eq_true.mp hall c h
  | infinite negative =>
    have hall : (if negative then "-inf" else "inf").toList.all isPlainChar = true := by
      cases negative <;> decide
    exact List.all_eq_true.mp hall c h
  | finite negative significand exponent =>
    rw [Binary64.toFixed, String.toList_ofList] at h
    rcases List.mem_append.mp h with h | h
    · cases negative with
      | false => cases h
      | true =>
        rw [List.mem_singleton.mp h]
        decide
    · exact isPlainChar_of_mem_pointed h

theorem quotedLabel_percentText (share : Binary64) :
    quotedLabel (percentText share) = "\"" ++ percentText share ++ "\"" := by
  have hplain : ∀ c ∈ (percentText share).toList, c ≠ '\\' ∧ c ≠ '"' := by
    intro c hc
    rw [percentText, String.toList_append] at hc
    refine ne_of_isPlainChar ?_
    rcases List.mem_append.mp hc with hc | hc
    · exact isPlainChar_of_mem_toFixed hc
    · rw [List.mem_singleton.mp hc]
      decide
  rw [quotedLabel, escapeLabel_of_plain hplain, String.ofList_append, String.ofList_cons, String.ofList_toList]
  rfl

/-- The ids of the functions of a report: the place of each among the rows. -/
def View.ids (v : View) : OrderedMap Frame String :=
  OrderedMap.ofList (v.rows.zipIdx.map fun e => (e.1.name, "n" ++ toString e.2))

/-- The id of a function; looking for one that has none fails. -/
def View.idOf (v : View) (name : Frame) : Except Frame String :=
  match v.ids.get? name with
  | some id => .ok id
  | none => .error name

def dotNode (id : String) (row : Row) : String :=
  "  " ++ id ++ " [label=" ++ quotedLabel (row.name ++ " (" ++ percentText row.share ++ ")") ++ "];"

def dotEdge (caller callee : String) (arc : Arc) : String :=
  "  " ++ caller ++ " -> " ++ callee ++ " [label=" ++ ("\"" ++ percentText arc.share ++ "\"") ++ "];"

/-- The text of a graph, where every id is looked up. -/
def View.writeDot (v : View) : Except Frame String := do
  let nodes ← v.rows.mapM fun row => do return dotNode (← v.idOf row.name) row
  let edges ← v.arcs.mapM fun arc => do return dotEdge (← v.idOf arc.caller) (← v.idOf arc.callee) arc
  return joinLines (["digraph G \x7b", "  node [ shape=box ];"] ++ nodes ++ edges ++ ["\x7d"])

/-- A report is drawn with a distinct id for each function and with every edge between two of them. -/
structure View.Drawn (view : View) : Prop where
  declared : view.ids.keys = view.rows.map Row.name
  distinct : view.ids.values.Nodup
  ends : ∀ arc ∈ view.arcs, arc.caller ∈ view.ids.keys ∧ arc.callee ∈ view.ids.keys
  written : view.writeDot = .ok view.dotText

variable {view : View}

theorem entries_ids (h : (view.rows.map Row.name).Nodup) :
    view.ids.entries = view.rows.zipIdx.map fun e => (e.1.name, "n" ++ toString e.2) := by
  refine OrderedMap.entries_ofList ?_
  have hnames : (view.rows.zipIdx.map fun e => (e.1.name, "n" ++ toString e.2)).map Prod.fst =
      (view.rows.zipIdx.map Prod.fst).map Row.name := by
    simp only [List.map_map, Function.comp_def]
  rwa [hnames, List.zipIdx_map_fst]

theorem keys_ids (h : (view.rows.map Row.name).Nodup) : view.ids.keys = view.rows.map Row.name := by
  rw [OrderedMap.keys, entries_ids h]
  conv_rhs => rw [← List.zipIdx_map_fst 0 view.rows]
  simp only [List.map_map, Function.comp_def]

theorem nodup_ids (h : (view.rows.map Row.name).Nodup) : view.ids.values.Nodup := by
  have hvalues : view.ids.values = (List.range' 0 view.rows.length).map fun place => "n" ++ toString place := by
    rw [OrderedMap.values, entries_ids h, ← List.zipIdx_map_snd 0 view.rows]
    simp only [List.map_map, Function.comp_def]
  rw [hvalues]
  refine List.Nodup.map (fun place other heq => ?_) List.nodup_range'
  have hrepr : place.repr = other.repr := (String.append_right_inj "n").mp heq
  rw [Nat.repr_eq_ofList_toDigits, Nat.repr_eq_ofList_toDigits, String.ofList_inj] at hrepr
  rw [← Nat.ofDigitChars_ten_toDigits (n := place), hrepr, Nat.ofDigitChars_ten_toDigits]

theorem idOf_eq_nodeId (h : (view.rows.map Row.name).Nodup) {name : Frame} (hname : name ∈ view.rows.map Row.name) :
    view.idOf name = .ok (nodeId (view.rows.map Row.name) name) := by
  have hplace := List.idxOf_lt_length_of_mem hname
  have hentry : (name, "n" ++ toString ((view.rows.map Row.name).idxOf name)) ∈ view.ids.entries := by
    have hrow : (view.rows.map Row.name)[(view.rows.map Row.name).idxOf name]? = some name := by
      rw [List.getElem?_eq_getElem hplace, List.getElem_idxOf hplace]
    rw [List.getElem?_map, Option.map_eq_some_iff] at hrow
    obtain ⟨row, hrow, hname⟩ := hrow
    rw [entries_ids h]
    exact List.mem_map.mpr ⟨(row, _), List.mk_mem_zipIdx_iff_getElem?.mpr hrow, congrArg (·, _) hname⟩
  rw [View.idOf, OrderedMap.get?_of_mem hentry]
  rfl

theorem drawn_of_ends (h : (view.rows.map Row.name).Nodup)
    (hends : ∀ arc ∈ view.arcs, arc.caller ∈ view.rows.map Row.name ∧ arc.callee ∈ view.rows.map Row.name) :
    view.Drawn := by
  have hrows : (view.rows.mapM fun row => do return dotNode (← view.idOf row.name) row) =
      .ok (view.rows.map fun row => dotNode (nodeId (view.rows.map Row.name) row.name) row) := by
    refine mapM_eq_ok_map fun row hrow => ?_
    rw [idOf_eq_nodeId h (List.mem_map_of_mem hrow)]
    rfl
  have harcs : (view.arcs.mapM fun arc => do
        return dotEdge (← view.idOf arc.caller) (← view.idOf arc.callee) arc) =
      .ok (view.arcs.map fun arc => dotEdge (nodeId (view.rows.map Row.name) arc.caller)
        (nodeId (view.rows.map Row.name) arc.callee) arc) := by
    refine mapM_eq_ok_map fun arc harc => ?_
    rw [idOf_eq_nodeId h (hends arc harc).1, idOf_eq_nodeId h (hends arc harc).2]
    rfl
  refine ⟨keys_ids h, nodup_ids h, keys_ids h ▸ hends, ?_⟩
  rw [View.writeDot, hrows, harcs]
  simp only [View.dotText, dotEdge, ← quotedLabel_percentText]
  rfl

variable {counts : Counts} {n : Int} {withEdges : Bool}

theorem View.Shows.drawn (h : view.Shows counts n withEdges) : view.Drawn := by
  have hdistinct : (view.rows.map Row.name).Nodup := by
    have hentries := h.selected.distinct
    rwa [List.map_map] at hentries
  refine drawn_of_ends hdistinct fun arc harc => ?_
  obtain ⟨ranking, -, hedges⟩ := h.edges
  have hentry : arc.entry ∈ view.arcs.map Arc.entry := List.mem_map_of_mem harc
  rw [hedges] at hentry
  cases withEdges with
  | false => cases hentry
  | true => exact bothAmong_iff.mp (List.mem_filter.mp hentry).2

/-- A report shows the functions that come first in their ranking, and of the ranking of all edges those between
them, and it is drawn with all of them. It is given exactly if nothing was counted or the numbers that it shows
as percentages have finite data, and it fails for the size of a number only. A greater threshold adds functions
at the end and edges in between. -/
theorem build_shows_top (counts : Counts) {n : Int} (h : 1 ≤ n) (withEdges : Bool) :
    (∀ view, build counts n withEdges = .ok view → view.Shows counts n withEdges ∧ view.Drawn) ∧
    ((∃ view, build counts n withEdges = .ok view) ↔ counts.total ≤ 0 ∨ Fits counts n withEdges) ∧
    (∀ e, build counts n withEdges = .error e → e = .arithmetic .tooLarge) ∧
    ∀ m view wider, n ≤ m → build counts n withEdges = .ok view → build counts m withEdges = .ok wider →
      view.rows <+: wider.rows ∧ view.arcs.Sublist wider.arcs := by
  refine ⟨fun view hview => ?_, exists_build_iff h, fun e => build_eq_error h, fun m view wider => build_monotone h⟩
  have hshows := shows_of_build h hview
  exact ⟨hshows, hshows.drawn⟩

/-- Of two functions with the count of the last place the one seen first is kept, with its edges. -/
theorem build_shows_top_tie :
    let functions : Tally Frame := ((OrderedMap.empty.insert "f" 2).insert "g" 3).insert "h" 2
    let edges : Tally Edge := ((OrderedMap.empty.insert ("g", "g") 1).insert ("g", "h") 2).insert ("f", "g") 2
    let counts : Counts := ⟨4, 4, functions, edges, .empty⟩
    (1 : Int) ≤ 2 ∧ ∃ view, build counts 2 true = .ok view ∧
      view.rows.map Row.entry = [("g", 3), ("f", 2)] ∧ view.arcs.map Arc.entry = [(("f", "g"), 2), (("g", "g"), 1)] ∧
      view.Shows counts 2 true ∧ view.Drawn := by
  intro functions edges counts
  have htop : (1 : Int) ≤ 2 := by decide
  have hfunctions : functions.ranked = [("g", 3), ("f", 2), ("h", 2)] :=
    (Tally.IsRanking.eq_ranked ⟨by decide, by decide⟩).symm
  have hedges : edges.ranked = [(("g", "h"), 2), (("f", "g"), 2), (("g", "g"), 1)] :=
    (Tally.IsRanking.eq_ranked ⟨by decide, by decide⟩).symm
  have hselected : selectTop counts.functions 2 = [("g", 3), ("f", 2)] := by
    rw [selectTop_eq_take (by decide), hfunctions]
    rfl
  have hshown : shownEdges counts 2 true = [(("f", "g"), 2), (("g", "g"), 1)] := by
    rw [shownEdges, if_pos rfl, ranked_edgesAmong, hselected, hedges]
    decide
  have hsmall {z : Int} (hz : z.natAbs.log2 < 1023) : HasDatum z := Binary64.ofInt_not_infinite hz
  have hfunctionCounts : ∀ e ∈ selectTop counts.functions 2, e.2.natAbs.log2 < 1023 := by
    rw [hselected]
    decide
  have hedgeCounts : ∀ e ∈ counts.edges.entries, e.2.natAbs.log2 < 1023 := by decide
  have hfits : Fits counts 2 true :=
    ⟨fun e he => ⟨hsmall (hfunctionCounts e he), hsmall (by decide)⟩, fun _ e he _ => hsmall (hedgeCounts e he)⟩
  obtain ⟨hshows, hgiven, -, -⟩ := build_shows_top counts htop true
  obtain ⟨view, hview⟩ := hgiven.mpr (.inr hfits)
  obtain ⟨-, hrows, harcs⟩ := build_eq_ok htop hview
  exact ⟨htop, view, hview, hselected ▸ (map_rowsOf hrows).1, hshown ▸ (map_arcsOf harcs).1, hshows view hview⟩

/-- A count that is too large for a percentage. -/
theorem no_report_of_huge_count :
    let counts : Counts := ⟨2 ^ 1024, 0, OrderedMap.empty.insert "f" (2 ^ 1024), .empty, .empty⟩
    (1 : Int) ≤ 1 ∧ ¬ ∃ view, build counts 1 true = .ok view := by
  intro counts
  have hbuild : (build counts 1 true).toOption.isNone = true := by decide +kernel
  refine ⟨by decide, ?_⟩
  rintro ⟨view, hview⟩
  rw [hview] at hbuild
  cases hbuild

end Report

end StackQuery
