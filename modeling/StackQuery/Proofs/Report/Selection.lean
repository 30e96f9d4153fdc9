import StackQuery.Proofs.Counts.Ranking
import StackQuery.Proofs.Report.OnePass

/-!
# What a report selects

A report keeps the functions that come first in their ranking, and of the ranking of all edges those with both
ends kept. So a greater threshold has the same functions at its beginning and the same edges in the same order.
A report is given unless a number that it shows as a percentage is too large for one.
-/
namespace StackQuery

/-- The entries that come first in the ranking of a tally, as many as asked for. -/
structure Tally.IsTop {κ : Type} [DecidableEq κ] (t : Tally κ) (n : Int) (top : List (κ × Int)) : Prop where
  entries : ∀ e ∈ top, e ∈ t.entries
  distinct : (top.map Prod.fst).Nodup
  size : (top.length : Int) = min n t.size
  ordered : top.Pairwise t.Before
  best : ∀ e ∈ t.entries, e ∉ top → ∀ kept ∈ top, t.Before kept e

namespace Report

variable {counts : Counts} {n : Int} {withEdges : Bool} {view : View}

theorem selectTop_eq_take (h : 0 ≤ n) (functions : Tally Frame) :
    selectTop functions n = functions.ranked.take n.toNat := by
  have hn := slice_take functions.ranked n.toNat
  rwa [Int.toNat_of_nonneg h] at hn

theorem isTop_selectTop (h : 0 ≤ n) (functions : Tally Frame) : functions.IsTop n (selectTop functions n) := by
  rw [selectTop_eq_take h]
  obtain ⟨hperm, hordered⟩ := functions.isRanking_ranked
  constructor
  · exact fun e he => hperm.mem_iff.mp (List.mem_of_mem_take he)
  · exact ((hperm.map Prod.fst).nodup_iff.mpr functions.nodup).sublist ((List.take_sublist _ _).map _)
  · rw [List.length_take, hperm.length_eq, OrderedMap.size]
    omega
  · exact hordered.sublist (List.take_sublist _ _)
  · intro e he hleft kept hkept
    rw [← hperm.mem_iff, ← List.take_append_drop n.toNat functions.ranked, List.mem_append] at he
    rw [← List.take_append_drop n.toNat functions.ranked, List.pairwise_append] at hordered
    exact hordered.2.2 kept hkept e (he.resolve_left hleft)

theorem selectTop_isPrefix {m : Int} (h : 0 ≤ n) (hle : n ≤ m) (functions : Tally Frame) :
    selectTop functions n <+: selectTop functions m := by
  rw [selectTop_eq_take h, selectTop_eq_take (by omega)]
  exact List.take_prefix_take_left (by omega)

/-- An edge has both ends among names. -/
def bothAmong (names : List Frame) (edge : Edge) : Bool := names.contains edge.1 && names.contains edge.2

theorem bothAmong_iff {names : List Frame} {edge : Edge} :
    bothAmong names edge = true ↔ edge.1 ∈ names ∧ edge.2 ∈ names := by
  simp [bothAmong]

theorem ranked_edgesAmong (names : List Frame) (edges : Tally Edge) :
    (edgesAmong names edges).ranked = edges.ranked.filter fun e => bothAmong names e.1 :=
  Tally.ranked_of_filter rfl

def shownEdges (counts : Counts) (n : Int) (withEdges : Bool) : List (Edge × Int) :=
  if withEdges then (edgesAmong ((selectTop counts.functions n).map Prod.fst) counts.edges).ranked else []

theorem shownEdges_sublist {m : Int} (h : 0 ≤ n) (hle : n ≤ m) (counts : Counts) (withEdges : Bool) :
    (shownEdges counts n withEdges).Sublist (shownEdges counts m withEdges) := by
  cases withEdges with
  | false => exact List.Sublist.refl _
  | true =>
    simp only [shownEdges, if_true, ranked_edgesAmong]
    refine List.monotone_filter_right _ fun e he => ?_
    have hsubset := ((selectTop_isPrefix h hle counts.functions).map Prod.fst).subset
    rw [bothAmong_iff] at he ⊢
    exact ⟨hsubset he.1, hsubset he.2⟩

def Row.entry (row : Row) : Frame × Int := (row.name, row.count)

def Arc.entry (arc : Arc) : Edge × Int := ((arc.caller, arc.callee), arc.count)

def arcsOf (total : Int) (edges : List (Edge × Int)) : Except BuildError (List Arc) :=
  edges.mapM fun e => do return ⟨e.1.1, e.1.2, e.2, ← share e.2 total⟩

theorem map_arcsOf {total : Int} {edges : List (Edge × Int)} {arcs : List Arc} (h : arcsOf total edges = .ok arcs) :
    arcs.map Arc.entry = edges ∧ ∀ arc ∈ arcs, share arc.count total = .ok arc.share :=
  map_mapM_share (fun _ _ => rfl) (fun _ _ => rfl) h

theorem exists_arcsOf_iff {total : Int} {edges : List (Edge × Int)} :
    (∃ arcs, arcsOf total edges = .ok arcs) ↔ ∀ e ∈ edges, ∃ x, share e.2 total = .ok x :=
  exists_mapM_share_iff

theorem build_of_pos (h : 1 ≤ n) : build counts n withEdges = do
    let rows ← rowsOf counts.total (selectTop counts.functions n)
    let arcs ← arcsOf counts.total (shownEdges counts n withEdges)
    return ⟨counts.total, rows, arcs⟩ := by
  rw [build, if_neg (by omega)]
  rfl

theorem build_eq_error (h : 1 ≤ n) {e : BuildError} (hbuild : build counts n withEdges = .error e) :
    e = .arithmetic .tooLarge := by
  rw [build_of_pos h] at hbuild
  rcases bind_eq_error_iff.mp hbuild with hrows | ⟨rows, -, hbuild⟩
  · exact rowsOf_eq_error hrows
  rcases bind_eq_error_iff.mp hbuild with harcs | ⟨arcs, -, hbuild⟩
  · exact mapM_share_eq_error harcs
  · cases hbuild

theorem build_eq_ok (h : 1 ≤ n) (hbuild : build counts n withEdges = .ok view) :
    view.total = counts.total ∧ rowsOf counts.total (selectTop counts.functions n) = .ok view.rows ∧
      arcsOf counts.total (shownEdges counts n withEdges) = .ok view.arcs := by
  rw [build_of_pos h] at hbuild
  obtain ⟨rows, hrows, hbuild⟩ := bind_eq_ok_iff.mp hbuild
  obtain ⟨arcs, harcs, hmake⟩ := bind_eq_ok_iff.mp hbuild
  cases hmake
  exact ⟨rfl, hrows, harcs⟩

/-- A report shows the functions that occur most often and, of all edges most frequent first, those between
them. -/
structure View.Shows (counts : Counts) (n : Int) (withEdges : Bool) (view : View) : Prop where
  total : view.total = counts.total
  selected : counts.functions.IsTop n (view.rows.map Row.entry)
  edges : ∃ ranking, counts.edges.IsRanking ranking ∧ view.arcs.map Arc.entry =
    if withEdges then ranking.filter fun e => bothAmong (view.rows.map Row.name) e.1 else []
  rowShares : ∀ row ∈ view.rows, share row.count counts.total = .ok row.share
  arcShares : ∀ arc ∈ view.arcs, share arc.count counts.total = .ok arc.share

theorem shows_of_build (h : 1 ≤ n) (hbuild : build counts n withEdges = .ok view) :
    view.Shows counts n withEdges := by
  obtain ⟨htotal, hrows, harcs⟩ := build_eq_ok h hbuild
  obtain ⟨hentries, hrowShares⟩ := map_rowsOf hrows
  obtain ⟨hedges, harcShares⟩ := map_arcsOf harcs
  have hnames : view.rows.map Row.name = (selectTop counts.functions n).map Prod.fst := by
    rw [← hentries, List.map_map]
    rfl
  refine ⟨htotal, ?_, ⟨counts.edges.ranked, counts.edges.isRanking_ranked, ?_⟩, hrowShares, harcShares⟩
  · have hrowEntries : view.rows.map Row.entry = selectTop counts.functions n := hentries
    rw [hrowEntries]
    exact isTop_selectTop (by omega) counts.functions
  · rw [hedges, hnames, shownEdges, ranked_edgesAmong]

/-- The numbers that a report shows as percentages have finite data. -/
structure Fits (counts : Counts) (n : Int) (withEdges : Bool) : Prop where
  rows : ∀ e ∈ selectTop counts.functions n, HasDatum e.2 ∧ HasDatum counts.total
  arcs : withEdges = true → ∀ e ∈ counts.edges.entries,
    bothAmong ((selectTop counts.functions n).map Prod.fst) e.1 = true → HasDatum e.2

theorem exists_build_iff (h : 1 ≤ n) :
    (∃ view, build counts n withEdges = .ok view) ↔ counts.total ≤ 0 ∨ Fits counts n withEdges := by
  have hparts : (∃ view, build counts n withEdges = .ok view) ↔
      (∃ rows, rowsOf counts.total (selectTop counts.functions n) = .ok rows) ∧
        ∃ arcs, arcsOf counts.total (shownEdges counts n withEdges) = .ok arcs := by
    constructor
    · rintro ⟨view, hview⟩
      obtain ⟨-, hrows, harcs⟩ := build_eq_ok h hview
      exact ⟨⟨_, hrows⟩, _, harcs⟩
    · rintro ⟨⟨rows, hrows⟩, arcs, harcs⟩
      rw [build_of_pos h, hrows, harcs]
      exact ⟨_, rfl⟩
  rw [hparts, exists_rowsOf_iff, exists_arcsOf_iff]
  simp only [exists_share_iff]
  by_cases hnone : counts.total ≤ 0
  · simp [hnone]
  · simp only [hnone, false_or]
    constructor
    · rintro ⟨hrows, harcs⟩
      refine ⟨hrows, fun hwith e he hends => (harcs e ?_).1⟩
      rw [shownEdges, if_pos hwith, ranked_edgesAmong]
      exact List.mem_filter.mpr ⟨counts.edges.ranked_perm.mem_iff.mpr he, hends⟩
    · rintro ⟨hrows, harcs⟩
      refine ⟨hrows, fun e he => ?_⟩
      cases withEdges with
      | false => cases he
      | true =>
        rw [shownEdges, if_pos rfl, ranked_edgesAmong] at he
        obtain ⟨he, hends⟩ := List.mem_filter.mp he
        -- the total has a datum because a function is selected, the caller of the edge
        obtain ⟨first, hfirst, -⟩ := List.mem_map.mp (bothAmong_iff.mp hends).1
        exact ⟨harcs rfl e (counts.edges.ranked_perm.mem_iff.mp he) hends, (hrows first hfirst).2⟩

/-- A greater threshold adds functions at the end, and edges between those that are there. -/
theorem build_monotone {m : Int} {wider : View} (h : 1 ≤ n) (hle : n ≤ m)
    (hview : build counts n withEdges = .ok view) (hwider : build counts m withEdges = .ok wider) :
    view.rows <+: wider.rows ∧ view.arcs.Sublist wider.arcs := by
  obtain ⟨-, hrows, harcs⟩ := build_eq_ok h hview
  obtain ⟨-, hrows', harcs'⟩ := build_eq_ok (by omega) hwider
  exact ⟨mapM_isPrefix (selectTop_isPrefix (by omega) hle counts.functions) hrows hrows',
    mapM_sublist (shownEdges_sublist (by omega) hle counts withEdges) harcs harcs'⟩

end Report

end StackQuery
