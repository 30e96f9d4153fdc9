import StackQuery.Proofs.Number.Magnitude
import StackQuery.Proofs.Report.Leaves

/-!
# Flat profiles in one pass

The rollup of a flat profile works round by round on all stacks at once. What comes of it can be said of each
stack alone: its samples go to its innermost frame that is not rare. So the rounds end, no sample is lost or
counted twice where stacks meet, and a profile fails only where a share cannot be computed.
-/
namespace StackQuery.Report

section
variable {ε : Type} {rare : Frame → Except ε Bool}

/-- The first frame that is not rare. No frame after it is asked. -/
def firstKept (rare : Frame → Except ε Bool) : List Frame → Except ε (Option Frame)
  | [] => .ok none
  | f :: rest => do if ← rare f then firstKept rare rest else return some f

/-- The innermost frame of a stack that is not rare. -/
def creditee (rare : Frame → Except ε Bool) (stack : List Frame) : Except ε (Option Frame) :=
  firstKept rare stack.reverse

theorem firstKept_append_of_rare {inner : List Frame} (h : ∀ f ∈ inner, rare f = .ok true) (rest : List Frame) :
    firstKept rare (inner ++ rest) = firstKept rare rest := by
  induction inner with
  | nil => rfl
  | cons f inner ih =>
    obtain ⟨hf, hinner⟩ := List.forall_mem_cons.mp h
    rw [List.cons_append, firstKept, hf, ← ih hinner]
    rfl

theorem creditee_append_of_rare {inner : List Frame} (h : ∀ f ∈ inner, rare f = .ok true) (outer : List Frame) :
    creditee rare (outer ++ inner) = creditee rare outer := by
  rw [creditee, List.reverse_append]
  exact firstKept_append_of_rare (by simpa using h) _

theorem creditee_of_kept {leaf : Frame} (h : rare leaf = .ok false) (outer : List Frame) :
    creditee rare (outer ++ [leaf]) = .ok (some leaf) := by
  rw [creditee, List.reverse_append, List.reverse_singleton, List.singleton_append, firstKept, h]
  rfl

theorem creditee_of_error {leaf : Frame} {e : ε} (h : rare leaf = .error e) (outer : List Frame) :
    creditee rare (outer ++ [leaf]) = .error e := by
  rw [creditee, List.reverse_append, List.reverse_singleton, List.singleton_append, firstKept, h]
  rfl

/-- Samples are credited to a frame if it is not rare and every frame further in is rare. -/
theorem creditee_eq_some_iff {stack : List Frame} {leaf : Frame} :
    creditee rare stack = .ok (some leaf) ↔
      ∃ outer inner, stack = outer ++ leaf :: inner ∧ rare leaf = .ok false ∧ ∀ f ∈ inner, rare f = .ok true := by
  constructor
  · intro h
    induction stack using List.reverseRecOn with
    | nil => cases h
    | append_singleton outer f ih =>
      cases hf : rare f with
      | error e =>
        rw [creditee_of_error hf] at h
        cases h
      | ok b =>
        cases b with
        | false =>
          rw [creditee_of_kept hf] at h
          cases h
          exact ⟨outer, [], rfl, hf, nofun⟩
        | true =>
          rw [creditee_append_of_rare (by simpa using hf)] at h
          obtain ⟨front, inner, rfl, hleaf, hinner⟩ := ih h
          refine ⟨front, inner ++ [f], by simp, hleaf, fun g hg => ?_⟩
          rcases List.mem_append.mp hg with hg | hg
          · exact hinner g hg
          · rwa [List.mem_singleton.mp hg]
  · rintro ⟨outer, inner, rfl, hleaf, hinner⟩
    rw [← List.singleton_append, ← List.append_assoc, creditee_append_of_rare hinner, creditee_of_kept hleaf]

theorem creditee_eq_none_iff {stack : List Frame} :
    creditee rare stack = .ok none ↔ ∀ f ∈ stack, rare f = .ok true := by
  constructor
  · intro h
    induction stack using List.reverseRecOn with
    | nil => exact nofun
    | append_singleton outer f ih =>
      cases hf : rare f with
      | error e =>
        rw [creditee_of_error hf] at h
        cases h
      | ok b =>
        cases b with
        | false =>
          rw [creditee_of_kept hf] at h
          cases h
        | true =>
          rw [creditee_append_of_rare (by simpa using hf)] at h
          exact List.forall_mem_append.mpr ⟨ih h, by simpa using hf⟩
  · intro h
    exact creditee_append_of_rare h []

/-- Samples of a stack are credited to its innermost frame that is not rare, and to none if all are rare. -/
def CreditedTo (rare : Frame → Except ε Bool) (stack : List Frame) : Option Frame → Prop
  | some leaf => ∃ outer inner, stack = outer ++ leaf :: inner ∧ rare leaf = .ok false ∧ ∀ f ∈ inner, rare f = .ok true
  | none => ∀ f ∈ stack, rare f = .ok true

theorem creditee_eq_ok_iff {stack : List Frame} {leaf : Option Frame} :
    creditee rare stack = .ok leaf ↔ CreditedTo rare stack leaf := by
  cases leaf with
  | none => exact creditee_eq_none_iff
  | some leaf => exact creditee_eq_some_iff

instance [DecidableEq ε] (stack : List Frame) (leaf : Option Frame) : Decidable (CreditedTo rare stack leaf) :=
  decidable_of_iff _ creditee_eq_ok_iff

/-- The samples of the stacks that are credited to a frame, or to none. -/
def credit [DecidableEq ε] (rare : Frame → Except ε Bool) (tally : Tally (List Frame)) (leaf : Option Frame) : Int :=
  tally.weight fun stack => CreditedTo rare stack leaf

/-- A frame of a stack that is asked whether it is rare: all frames further in are. -/
def Asks (rare : Frame → Except ε Bool) (stack : List Frame) (f : Frame) : Prop :=
  ∃ outer inner, stack = outer ++ f :: inner ∧ ∀ g ∈ inner, rare g = .ok true

theorem asks_append_singleton {outer : List Frame} {f g : Frame} :
    Asks rare (outer ++ [f]) g ↔ g = f ∨ rare f = .ok true ∧ Asks rare outer g := by
  constructor
  · rintro ⟨front, inner, heq, hinner⟩
    rcases inner.eq_nil_or_concat with rfl | ⟨inner, last, rfl⟩
    · exact .inl (by simpa using (List.append_inj' heq rfl).2.symm)
    · rw [List.concat_eq_append] at heq hinner
      rw [← List.cons_append, ← List.append_assoc] at heq
      obtain ⟨houter, hlast⟩ := List.append_inj' heq rfl
      obtain rfl := List.singleton_inj.mp hlast
      exact .inr ⟨hinner f (by simp), front, inner, houter, fun g hg => hinner g (List.mem_append_left _ hg)⟩
  · rintro (rfl | ⟨hf, front, inner, rfl, hinner⟩)
    · exact ⟨outer, [], rfl, nofun⟩
    · refine ⟨front, inner ++ [f], by simp, fun h hh => ?_⟩
      rcases List.mem_append.mp hh with hh | hh
      · exact hinner h hh
      · rwa [List.mem_singleton.mp hh]

theorem exists_creditee_iff {stack : List Frame} :
    (∃ leaf, creditee rare stack = .ok leaf) ↔ ∀ f, Asks rare stack f → ∃ b, rare f = .ok b := by
  induction stack using List.reverseRecOn with
  | nil => exact ⟨fun _ f ⟨outer, inner, h, _⟩ => absurd h (by simp), fun _ => ⟨none, rfl⟩⟩
  | append_singleton outer f ih =>
    simp only [asks_append_singleton, or_imp, forall_and, forall_eq]
    cases hf : rare f with
    | error e => simp [creditee_of_error hf]
    | ok b =>
      cases b with
      | false => simp [creditee_of_kept hf]
      | true =>
        rw [creditee_append_of_rare (by simpa using hf), ih]
        simp

namespace Leaves

variable {l : Leaves} {tally : Tally (List Frame)} {cut : List Frame → List Frame} {stack : List Frame}

theorem Cut.creditee_eq (h : Cut rare tally l cut) (stack : List Frame) :
    creditee rare stack = creditee rare (cut stack) := by
  obtain ⟨inner, hstack, hinner⟩ := h.dropped stack
  conv_lhs => rw [hstack, creditee_append_of_rare hinner]

theorem Cut.exists_leaf (h : Cut rare tally l cut) (hstack : stack ∈ tally.keys) (hcut : cut stack ≠ []) :
    ∃ context leaf, cut stack = context ++ [leaf] ∧ leaf ∈ l.groups.keys := by
  have hhas := (h.has _).mpr ⟨hcut, stack, hstack, rfl⟩
  obtain ⟨context, leaf, heq, -⟩ := hhas.exists_append
  exact ⟨context, leaf, heq, mem_keys_of_has (heq ▸ hhas)⟩

/-- When no leaf is rare any more, every stack ends with the frame that it is credited to. -/
theorem Cut.creditee_of_settled (h : Cut rare tally l cut) (hsettled : l.failing rare = .ok [])
    (hstack : stack ∈ tally.keys) : creditee rare stack = .ok (cut stack).getLast? := by
  rw [h.creditee_eq]
  by_cases hcut : cut stack = []
  · rw [hcut]
    rfl
  · obtain ⟨context, leaf, heq, hleaf⟩ := h.exists_leaf hstack hcut
    obtain ⟨hmem, hasked⟩ := mem_failing hsettled leaf
    obtain ⟨b, hb⟩ := hasked hleaf
    cases b with
    | false => rw [heq, creditee_of_kept hb, List.getLast?_concat]
    | true => exact absurd (hmem.mpr ⟨hleaf, hb⟩) List.not_mem_nil

theorem Cut.credit_of_settled [DecidableEq ε] (h : Cut rare tally l cut) (hsettled : l.failing rare = .ok [])
    (leaf : Option Frame) : credit rare tally leaf = l.held fun stack => stack.getLast? = leaf := by
  rw [h.held, credit, Tally.weight, Tally.weight]
  refine OrderedMap.sumBy_congr fun e he => ?_
  simp [← creditee_eq_ok_iff, h.creditee_of_settled hsettled (List.mem_map_of_mem he)]

theorem Cut.mem_keys_iff_of_settled (h : Cut rare tally l cut) (hsettled : l.failing rare = .ok [])
    {leaf : Frame} : leaf ∈ l.groups.keys ↔ ∃ stack ∈ tally.keys, creditee rare stack = .ok (some leaf) := by
  constructor
  · intro hleaf
    obtain ⟨context, hcontext⟩ := h.grouped leaf hleaf
    obtain ⟨-, stack, hstack, heq⟩ := (h.has _).mp hcontext
    exact ⟨stack, hstack, by rw [h.creditee_of_settled hsettled hstack, heq, List.getLast?_concat]⟩
  · rintro ⟨stack, hstack, hcredit⟩
    rw [h.creditee_of_settled hsettled hstack, Except.ok.injEq] at hcredit
    have heq := List.dropLast_append_getLast? leaf hcredit
    have hcut : cut stack ≠ [] := fun hcut => by
      rw [hcut] at hcredit
      cases hcredit
    exact mem_keys_of_has (heq ▸ (h.has _).mpr ⟨hcut, stack, hstack, rfl⟩)

/-- The rollup succeeds exactly if every stack has a frame, or none, that it is credited to. -/
theorem exists_settle_iff :
    (∃ l', (empty.addAll tally).settle rare (longest tally + 1) = .ok l') ↔
      ∀ stack ∈ tally.keys, ∃ leaf, creditee rare stack = .ok leaf := by
  obtain ⟨l', cut, hcut, ⟨heq, hsettled⟩ | ⟨e, heq, hfailed⟩⟩ :=
    (rollsUp_tally rare tally).ends_cut (cut_addAll_empty rare tally)
  · exact ⟨fun _ stack hstack => ⟨_, hcut.creditee_of_settled hsettled hstack⟩, fun _ => ⟨l', heq⟩⟩
  · constructor
    · rintro ⟨l'', hok⟩
      cases heq.symm.trans hok
    · intro hall
      obtain ⟨leaf, hleaf, hrare⟩ := filterM_eq_error hfailed
      obtain ⟨context, hcontext⟩ := hcut.grouped leaf hleaf
      obtain ⟨-, stack, hstack, hstackCut⟩ := (hcut.has _).mp hcontext
      obtain ⟨credited, hcredited⟩ := hall stack hstack
      rw [hcut.creditee_eq, hstackCut, creditee_of_error hrare] at hcredited
      cases hcredited

theorem held_getLast?_none (l : Leaves) : (l.held fun stack => stack.getLast? = none) = l.exhausted := by
  simp [held, weight, Tally.weight_never, OrderedMap.sumBy]

theorem keys_sums (l : Leaves) : l.sums.keys = l.groups.keys := by
  simp [sums, OrderedMap.keys, OrderedMap.mapValues]

theorem held_true (l : Leaves) : (l.held fun _ => true) = (l.sums.entries.map Prod.snd).sum + l.exhausted := by
  simp [held, weight, sums, OrderedMap.sumBy, OrderedMap.mapValues, Function.comp_def, sum_values]

end Leaves

end

section
variable {α β : Type} {count : α → Int} {make : α → Binary64 → β} {total : Int} {xs : List α}

theorem exists_mapM_share_iff :
    (∃ ys, (xs.mapM fun x => do return make x (← share (count x) total)) = .ok ys) ↔
      ∀ x ∈ xs, ∃ y, share (count x) total = .ok y := by
  refine exists_mapM_iff.trans (forall₂_congr fun x _ => ?_)
  cases share (count x) total with
  | error error => simp [bind, Except.bind]
  | ok y => simp [bind, Except.bind, pure, Except.pure]

/-- A list of shares has the elements that it was made of, each with its share. -/
theorem map_mapM_share {entry : β → α} {shareOf : β → Binary64} (hentry : ∀ x s, entry (make x s) = x)
    (hshare : ∀ x s, shareOf (make x s) = s) {ys : List β}
    (h : (xs.mapM fun x => do return make x (← share (count x) total)) = .ok ys) :
    ys.map entry = xs ∧ ∀ y ∈ ys, share (count (entry y)) total = .ok (shareOf y) := by
  have hys := mapM_eq_ok_iff.mp h
  clear h
  induction hys with
  | nil => exact ⟨rfl, nofun⟩
  | cons hfirst _ ih =>
    obtain ⟨s, hs, hmake⟩ := bind_eq_ok_iff.mp hfirst
    cases hmake
    rw [List.map_cons, List.forall_mem_cons, hentry, hshare]
    exact ⟨congrArg _ ih.1, hs, ih.2⟩

end

theorem map_rowsOf {total : Int} {ranked : List (Frame × Int)} {rows : List Row}
    (h : rowsOf total ranked = .ok rows) :
    (rows.map fun row => (row.name, row.count)) = ranked ∧ ∀ row ∈ rows, share row.count total = .ok row.share :=
  map_mapM_share (fun _ _ => rfl) (fun _ _ => rfl) h

theorem exists_rowsOf_iff {total : Int} {ranked : List (Frame × Int)} :
    (∃ rows, rowsOf total ranked = .ok rows) ↔ ∀ e ∈ ranked, ∃ x, share e.2 total = .ok x :=
  exists_mapM_share_iff

theorem exists_share_iff {count total : Int} :
    (∃ x, share count total = .ok x) ↔ total ≤ 0 ∨ HasDatum count ∧ HasDatum total := by
  rw [← exists_percent_iff, share]
  cases percent count total <;> simp [Except.mapError]

theorem share_eq_error {count total : Int} {e : BuildError} (h : share count total = .error e) :
    e = .arithmetic .tooLarge := by
  rw [share] at h
  cases hx : percent count total with
  | ok x =>
    rw [hx] at h
    cases h
  | error e' =>
    rw [hx] at h
    cases h
    rw [percent_eq_error hx]

theorem mapM_share_eq_error {α β : Type} {count : α → Int} {make : α → Binary64 → β} {total : Int} {xs : List α}
    {e : BuildError} (h : (xs.mapM fun x => do return make x (← share (count x) total)) = .error e) :
    e = .arithmetic .tooLarge := by
  obtain ⟨_, x, _, -, -, hx⟩ := mapM_eq_error_iff.mp h
  rcases bind_eq_error_iff.mp hx with hshare | ⟨y, -, hmake⟩
  · exact share_eq_error hshare
  · cases hmake

theorem rowsOf_eq_error {total : Int} {ranked : List (Frame × Int)} {e : BuildError}
    (h : rowsOf total ranked = .error e) : e = .arithmetic .tooLarge :=
  mapM_share_eq_error h

theorem isRare_eq_error {counts : Counts} {cutoff : Number} {name : Frame} {e : BuildError}
    (h : isRare counts cutoff name = .error e) : e = .arithmetic .tooLarge := by
  rw [isRare] at h
  cases hx : share (counts.functions.count name) counts.total with
  | error e' =>
    rw [hx] at h
    cases h
    exact share_eq_error hx
  | ok x =>
    rw [hx] at h
    cases h

/-- A profile shows each stack where it is credited: a row for each frame that some stack is credited to, with
the samples of all such stacks, most frequent first, and apart from the rows the samples that are credited to no
frame. -/
structure FlatView.OnePass (counts : Counts) (rare : Frame → Except BuildError Bool) (view : FlatView) : Prop where
  total : view.total = counts.total
  assigned : ∀ stack ∈ counts.stacks.keys, ∃! leaf, CreditedTo rare stack leaf
  names (name : Frame) : name ∈ view.rows.map Row.name ↔
    ∃ stack ∈ counts.stacks.keys, CreditedTo rare stack (some name)
  distinct : (view.rows.map Row.name).Nodup
  credited : ∀ row ∈ view.rows, row.count = credit rare counts.stacks (some row.name)
  shares : ∀ row ∈ view.rows, share row.count counts.total = .ok row.share
  ranked : view.rows.Pairwise fun a b => b.count ≤ a.count
  exhausted : view.exhausted = credit rare counts.stacks none
  conserved : (view.rows.map Row.count).sum + view.exhausted = counts.stacks.weight fun _ => true

/-- The numbers that a profile turns into percentages have finite data: the counts of the frames that are asked
whether they are rare, and the samples of the rows. -/
structure RollupFits (counts : Counts) (rare : Frame → Except BuildError Bool) : Prop where
  asked : ∀ stack ∈ counts.stacks.keys, ∀ f, Asks rare stack f →
    HasDatum (counts.functions.count f) ∧ HasDatum counts.total
  rows : ∀ stack ∈ counts.stacks.keys, ∀ name, CreditedTo rare stack (some name) →
    HasDatum (credit rare counts.stacks (some name)) ∧ HasDatum counts.total

section
variable {counts : Counts} {cutoff : Number}

theorem flatten_of_isPercentage (h : isPercentage cutoff = true) :
    flatten counts cutoff = do
      let leaves ← (Leaves.empty.addAll counts.stacks).settle (isRare counts cutoff) (longest counts.stacks + 1)
      let rows ← rowsOf counts.total leaves.sums.ranked
      return ⟨counts.total, rows, leaves.exhausted⟩ := by
  rw [flatten, h]
  rfl

/-- What a profile shows, as it is made from the leaves that are left. -/
theorem onePass_of_flatten (h : isPercentage cutoff = true) {view : FlatView}
    (hview : flatten counts cutoff = .ok view) : view.OnePass counts (isRare counts cutoff) := by
  rw [flatten_of_isPercentage h] at hview
  obtain ⟨leaves, hleaves, hrest⟩ := bind_eq_ok_iff.mp hview
  obtain ⟨rows, hrows, hmake⟩ := bind_eq_ok_iff.mp hrest
  cases hmake
  obtain ⟨cut, hcut, hsettled⟩ := Leaves.cut_of_settle hleaves
  obtain ⟨hranked, hshares⟩ := map_rowsOf hrows
  have hnames : rows.map Row.name = leaves.sums.ranked.map Prod.fst := by
    simp [← hranked, Function.comp_def]
  have hcounts : rows.map Row.count = leaves.sums.ranked.map Prod.snd := by
    simp [← hranked, Function.comp_def]
  have hperm : leaves.sums.ranked.Perm leaves.sums.entries := leaves.sums.ranked_perm
  constructor
  case total => rfl
  case assigned =>
    intro stack hstack
    have hcredited := hcut.creditee_of_settled hsettled hstack
    refine ⟨_, creditee_eq_ok_iff.mp hcredited, fun leaf hleaf => ?_⟩
    exact Except.ok.inj ((creditee_eq_ok_iff.mpr hleaf).symm.trans hcredited)
  case names =>
    intro name
    simp only [← creditee_eq_ok_iff]
    rw [hnames, (hperm.map Prod.fst).mem_iff, ← hcut.mem_keys_iff_of_settled hsettled, ← leaves.keys_sums]
    rfl
  case distinct =>
    change (rows.map Row.name).Nodup
    rw [hnames]
    exact (hperm.map Prod.fst).nodup_iff.mpr leaves.sums.nodup
  case credited =>
    intro row hrow
    have hentry : (row.name, row.count) ∈ leaves.sums.entries := by
      rw [← hperm.mem_iff, ← hranked]
      exact List.mem_map_of_mem hrow
    rw [hcut.credit_of_settled hsettled, ← leaves.count_sums, Tally.count_of_mem hentry]
  case shares => exact hshares
  case ranked =>
    have hsorted := leaves.sums.pairwise_ranked
    rwa [← hranked, List.pairwise_map] at hsorted
  case exhausted => rw [hcut.credit_of_settled hsettled, leaves.held_getLast?_none]
  case conserved =>
    change (rows.map Row.count).sum + leaves.exhausted = _
    rw [hcounts, (hperm.map Prod.snd).sum_eq, ← leaves.held_true, hcut.held]

/-- A profile is given exactly if every stack has a frame, or none, to be credited to, and the rows have their
shares. -/
theorem exists_flatten_iff_shares (h : isPercentage cutoff = true) :
    (∃ view, flatten counts cutoff = .ok view) ↔
      (∀ stack ∈ counts.stacks.keys, ∃ leaf, creditee (isRare counts cutoff) stack = .ok leaf) ∧
      ∀ stack ∈ counts.stacks.keys, ∀ name, CreditedTo (isRare counts cutoff) stack (some name) →
        ∃ x, share (credit (isRare counts cutoff) counts.stacks (some name)) counts.total = .ok x := by
  rw [flatten_of_isPercentage h, ← Leaves.exists_settle_iff]
  cases hleaves : (Leaves.empty.addAll counts.stacks).settle (isRare counts cutoff) (longest counts.stacks + 1) with
  | error e => simp [bind, Except.bind]
  | ok leaves =>
    obtain ⟨cut, hcut, hsettled⟩ := Leaves.cut_of_settle hleaves
    have hcredit (name : Frame) : leaves.sums.count name = credit (isRare counts cutoff) counts.stacks (some name) := by
      rw [leaves.count_sums, hcut.credit_of_settled hsettled]
    have hrows : (∃ rows, rowsOf counts.total leaves.sums.ranked = .ok rows) ↔
        ∀ stack ∈ counts.stacks.keys, ∀ name, CreditedTo (isRare counts cutoff) stack (some name) →
          ∃ x, share (credit (isRare counts cutoff) counts.stacks (some name)) counts.total = .ok x := by
      rw [exists_rowsOf_iff]
      simp only [leaves.sums.ranked_perm.mem_iff, Tally.mem_entries_iff, leaves.keys_sums,
        hcut.mem_keys_iff_of_settled hsettled, ← creditee_eq_ok_iff]
      constructor
      · exact fun hall stack hstack name hname =>
          hcredit name ▸ hall (name, leaves.sums.count name) ⟨⟨stack, hstack, hname⟩, rfl⟩
      · rintro hall e ⟨⟨stack, hstack, hname⟩, hcount⟩
        rw [← hcount, hcredit]
        exact hall stack hstack e.1 hname
    constructor
    · rintro ⟨view, hview⟩
      obtain ⟨_, heq, hview⟩ := bind_eq_ok_iff.mp hview
      cases heq
      obtain ⟨rows, hrowsOf, -⟩ := bind_eq_ok_iff.mp hview
      exact ⟨⟨leaves, rfl⟩, hrows.mp ⟨rows, hrowsOf⟩⟩
    · rintro ⟨-, hshares⟩
      obtain ⟨rows, hrowsOf⟩ := hrows.mpr hshares
      exact ⟨_, bind_eq_ok_iff.mpr ⟨leaves, rfl, bind_eq_ok_iff.mpr ⟨rows, hrowsOf, rfl⟩⟩⟩

theorem exists_isRare_iff {name : Frame} :
    (∃ b, isRare counts cutoff name = .ok b) ↔
      counts.total ≤ 0 ∨ HasDatum (counts.functions.count name) ∧ HasDatum counts.total := by
  rw [← exists_share_iff, isRare]
  cases share (counts.functions.count name) counts.total <;> simp [bind, Except.bind, pure, Except.pure]

theorem exists_flatten_iff (h : isPercentage cutoff = true) :
    (∃ view, flatten counts cutoff = .ok view) ↔
      counts.total ≤ 0 ∨ RollupFits counts (isRare counts cutoff) := by
  rw [exists_flatten_iff_shares h]
  simp only [exists_creditee_iff, exists_isRare_iff, exists_share_iff]
  by_cases hnone : counts.total ≤ 0
  · simp [hnone]
  · simp only [hnone, false_or]
    constructor
    · rintro ⟨hasked, hrows⟩
      exact ⟨hasked, hrows⟩
    · exact fun hfits => ⟨hfits.asked, hfits.rows⟩

/-- A profile with a cutoff that is a percentage fails for the size of a number only. -/
theorem flatten_eq_error (h : isPercentage cutoff = true) {e : BuildError} (herror : flatten counts cutoff = .error e) :
    e = .arithmetic .tooLarge := by
  rw [flatten_of_isPercentage h] at herror
  rcases bind_eq_error_iff.mp herror with hsettle | ⟨leaves, -, herror⟩
  · obtain ⟨_, _, -, ⟨heq, -⟩ | ⟨_, heq, hfailed⟩⟩ :=
      (Leaves.rollsUp_tally (isRare counts cutoff) counts.stacks).ends_cut (Leaves.cut_addAll_empty _ _)
    · cases hsettle.symm.trans heq
    · cases hsettle.symm.trans heq
      obtain ⟨leaf, -, hleaf⟩ := filterM_eq_error hfailed
      exact isRare_eq_error hleaf
  rcases bind_eq_error_iff.mp herror with hrows | ⟨rows, -, hmake⟩
  · exact rowsOf_eq_error hrows
  · cases hmake

/-- No number of a pass, nor a sum of counts of stacks, has more than 1023 binary digits. -/
structure Moderate (counts : Counts) : Prop where
  total : counts.total.natAbs.log2 < 1023
  functions (f : Frame) : (counts.functions.count f).natAbs.log2 < 1023
  samples : (counts.stacks.entries.map fun e : List Frame × Int => e.2.natAbs).sum.log2 < 1023

theorem log2_lt_of_le {m n k : Nat} (h : m ≤ n) (hn : n.log2 < k) : m.log2 < k := by
  by_cases hm : m = 0
  · rw [hm]
    exact Nat.zero_lt_of_lt hn
  · exact (Nat.log2_lt hm).mpr (h.trans_lt ((Nat.log2_lt (by omega)).mp hn))

theorem Moderate.fits (h : Moderate counts) (rare : Frame → Except BuildError Bool) : RollupFits counts rare := by
  have htotal : HasDatum counts.total := Binary64.ofInt_not_infinite h.total
  refine ⟨fun _ _ f _ => ⟨Binary64.ofInt_not_infinite (h.functions f), htotal⟩, fun _ _ _ _ => ⟨?_, htotal⟩⟩
  exact Binary64.ofInt_not_infinite (log2_lt_of_le (Tally.natAbs_weight_le _ _) h.samples)

end

/-- A flat profile is that of one pass over the stacks, each credited to its innermost frame that occurs in
enough samples. The rounds of the rollup end by themselves. A profile is given exactly if nothing was counted, or
every number that it turns into a percentage has a finite datum, as in counts that are not too large; and it
fails for the size of a number only. -/
theorem flatten_is_onePass {counts : Counts} {cutoff : Number} (h : isPercentage cutoff = true) :
    Leaves.RollsUp (isRare counts cutoff) (Leaves.empty.addAll counts.stacks)
      ((Leaves.empty.addAll counts.stacks).settle (isRare counts cutoff) (longest counts.stacks + 1)) ∧
    (∀ view, flatten counts cutoff = .ok view → view.OnePass counts (isRare counts cutoff)) ∧
    ((∃ view, flatten counts cutoff = .ok view) ↔
      counts.total ≤ 0 ∨ RollupFits counts (isRare counts cutoff)) ∧
    (Moderate counts → RollupFits counts (isRare counts cutoff)) ∧
    ∀ e, flatten counts cutoff = .error e → e = .arithmetic .tooLarge :=
  ⟨Leaves.rollsUp_tally _ _, fun _ => onePass_of_flatten h, exists_flatten_iff h, fun hsmall => hsmall.fits _,
    fun _ => flatten_eq_error h⟩

/-- A recursive stack, two that meet where a rare leaf is dropped, and one all of whose frames are rare. -/
theorem flatten_is_onePass_collision :
    let functions : Tally Frame := ((OrderedMap.empty.insert "f" 3).insert "g" 1).insert "h" 2
    let paths : Tally (List Frame) :=
      ((OrderedMap.empty.insert ["f", "g", "h"] 1).insert ["f"] 2).insert ["h", "h"] 1
    let counts : Counts := ⟨4, 4, functions, .empty, paths⟩
    isPercentage (.int 60) = true ∧
      ∃ view, flatten counts (.int 60) = .ok view ∧
        view.rows.map (fun row => (row.name, row.count)) = [("f", 3)] ∧ view.exhausted = 1 ∧
        view.OnePass counts (isRare counts (.int 60)) := by
  intro functions paths counts
  have hcutoff : isPercentage (.int 60) = true := rfl
  have hview : (flatten counts (.int 60)).toOption.map (fun view =>
      (view.rows.map fun row => (row.name, row.count), view.exhausted)) = some ([("f", 3)], 1) := by decide +kernel
  refine ⟨hcutoff, ?_⟩
  cases hflatten : flatten counts (.int 60) with
  | error e =>
    rw [hflatten] at hview
    cases hview
  | ok view =>
    rw [hflatten] at hview
    obtain ⟨hrows, hexhausted⟩ := Prod.mk.inj (Option.some.inj hview)
    exact ⟨view, rfl, hrows, hexhausted, (flatten_is_onePass hcutoff).2.1 view hflatten⟩

/-- A count that is too large for a percentage; such a total does no harm where no frame is asked. -/
theorem no_flat_profile_of_huge_count :
    let functions : Tally Frame := OrderedMap.empty.insert "f" (2 ^ 1024)
    let paths : Tally (List Frame) := OrderedMap.empty.insert ["f"] (2 ^ 1024)
    isPercentage (.int 0) = true ∧ (¬ ∃ view, flatten ⟨2 ^ 1024, 0, functions, .empty, paths⟩ (.int 0) = .ok view) ∧
      ∃ view, flatten ⟨2 ^ 1024, 0, functions, .empty, .empty⟩ (.int 0) = .ok view := by
  intro functions paths
  have hnone : (flatten ⟨2 ^ 1024, 0, functions, .empty, paths⟩ (.int 0)).toOption.isNone = true := by
    decide +kernel
  have hempty : ∀ stack, stack ∉ (OrderedMap.empty : Tally (List Frame)).keys := fun _ => List.not_mem_nil
  refine ⟨rfl, ?_, (exists_flatten_iff rfl).mpr (.inr ⟨fun stack h => ?_, fun stack h => ?_⟩)⟩
  rotate_left
  · exact absurd h (hempty stack)
  · exact absurd h (hempty stack)
  rintro ⟨view, hview⟩
  rw [hview] at hnone
  cases hnone

end StackQuery.Report
