import StackQuery.Proofs.Report.Graph

/-!
# Labels read back

A label stands between quotes with a backslash before each of its own quotes and backslashes. A reader that takes
the character behind a backslash as it is meets the closing quote at the end of the label and nowhere before, and
has read the label. So all labels of a graph are read back from its text, whatever the names of functions, and
what stands outside them is the text of the same graph with empty labels.
-/
namespace StackQuery.Report

/-- A text with each occurrence of a character replaced. -/
def replaceEach (c : Char) (replacement text : List Char) : List Char :=
  text.flatMap fun d => if d = c then replacement else [d]

/-- The place of the first quote that no backslash takes, and the characters of the label that it closes. A
backslash takes the next character as it is. -/
def readLabel : List Char → Option (Nat × List Char)
  | [] => none
  | '"' :: _ => some (0, [])
  | ['\\'] => none
  | '\\' :: c :: rest => (readLabel rest).map fun r => (r.1 + 2, c :: r.2)
  | c :: rest => (readLabel rest).map fun r => (r.1 + 1, c :: r.2)

theorem readLabel_backslash (c : Char) (rest : List Char) :
    readLabel ('\\' :: c :: rest) = (readLabel rest).map fun r => (r.1 + 2, c :: r.2) := rfl

theorem readLabel_plain {c : Char} (hback : c ≠ '\\') (hquote : c ≠ '"') (rest : List Char) :
    readLabel (c :: rest) = (readLabel rest).map fun r => (r.1 + 1, c :: r.2) := by
  rw [readLabel]
  · exact hquote
  · exact fun h => absurd h hback
  · exact fun _ _ h => absurd h hback

theorem readLabel_escapeLabel (label after : List Char) :
    readLabel (escapeLabel label ++ '"' :: after) = some ((escapeLabel label).length, label) := by
  induction label with
  | nil => rfl
  | cons c rest ih =>
    by_cases hc : c = '\\' ∨ c = '"'
    · simp [escapeLabel, hc, readLabel_backslash, ih]
    · obtain ⟨hback, hquote⟩ := not_or.mp hc
      simp [escapeLabel, hc, readLabel_plain hback hquote, ih]

theorem escapeLabel_eq_replaceEach (label : List Char) :
    escapeLabel label = replaceEach '"' ['\\', '"'] (replaceEach '\\' ['\\', '\\'] label) := by
  induction label with
  | nil => rfl
  | cons c rest ih =>
    simp only [replaceEach, List.flatMap_cons, List.flatMap_append] at ih ⊢
    rw [escapeLabel, ih]
    by_cases hback : c = '\\'
    · subst hback
      rfl
    · by_cases hquote : c = '"' <;> simp [hback, hquote]

/-- In the other order a quote closes its label. -/
example : readLabel (replaceEach '\\' ['\\', '\\'] (replaceEach '"' ['\\', '"'] ['a', '"', 'b']) ++ ['"']) =
    some (3, ['a', '\\']) := by decide

theorem quotedLabel_inj {a b : String} : quotedLabel a = quotedLabel b ↔ a = b := by
  refine ⟨fun h => ?_, congrArg quotedLabel⟩
  have hchars : escapeLabel a.toList ++ ['"'] = escapeLabel b.toList ++ ['"'] :=
    (List.cons.inj (String.ofList_injective h)).2
  have hread := readLabel_escapeLabel a.toList []
  rw [hchars, readLabel_escapeLabel] at hread
  exact String.toList_inj.mp (Prod.mk.inj (Option.some.inj hread)).2.symm

/-- What stands outside the labels of a text, with the quotes around them, and the labels. -/
def readText : List Char → Option (List Char × List (List Char))
  | [] => some ([], [])
  | c :: rest =>
    if c = '"' then
      match readLabel rest with
      | none => none
      | some (place, label) =>
        (readText (rest.drop (place + 1))).map fun r => ('"' :: '"' :: r.1, label :: r.2)
    else (readText rest).map fun r => (c :: r.1, r.2)
termination_by text => text.length
decreasing_by
  · rw [List.length_drop, List.length_cons]
    omega
  · exact Nat.lt_succ_self _

/-- However a text goes on, what is read of a part at its beginning is the same. -/
def Reads (part outside : List Char) (labels : List (List Char)) : Prop :=
  ∀ after, readText (part ++ after) = (readText after).map fun r => (outside ++ r.1, labels ++ r.2)

namespace Reads

variable {part outside part' outside' : List Char} {labels labels' : List (List Char)}

theorem nil : Reads [] [] [] := fun after => by simp

theorem append (h : Reads part outside labels) (h' : Reads part' outside' labels') :
    Reads (part ++ part') (outside ++ outside') (labels ++ labels') := by
  intro after
  rw [List.append_assoc, h, h', Option.map_map]
  simp [Function.comp_def]

theorem plain (h : '"' ∉ part) : Reads part part [] := by
  induction part with
  | nil => exact nil
  | cons c rest ih =>
    obtain ⟨hc, hrest⟩ := not_or.mp (mt List.mem_cons.mpr h)
    intro after
    rw [List.cons_append, readText, if_neg (Ne.symm hc), ih hrest, Option.map_map]
    rfl

theorem quoted (label : String) : Reads (quotedLabel label).toList ['"', '"'] [label.toList] := by
  intro after
  have hdrop : (escapeLabel label.toList ++ '"' :: after).drop ((escapeLabel label.toList).length + 1) = after := by
    rw [← List.drop_drop, List.drop_left, List.drop_succ_cons, List.drop_zero]
  have htext : (quotedLabel label).toList ++ after = '"' :: (escapeLabel label.toList ++ '"' :: after) := by
    simp [quotedLabel]
  rw [htext, readText, if_pos rfl, readLabel_escapeLabel]
  simp only [hdrop]
  rfl

theorem flatMap {ι : Type} {xs : List ι} {part outside : ι → List Char} {labels : ι → List (List Char)}
    (h : ∀ x ∈ xs, Reads (part x) (outside x) (labels x)) :
    Reads (xs.flatMap part) (xs.flatMap outside) (xs.flatMap labels) := by
  induction xs with
  | nil => exact nil
  | cons x rest ih =>
    obtain ⟨hx, hrest⟩ := List.forall_mem_cons.mp h
    exact hx.append (ih hrest)

theorem readText_eq (h : Reads part outside labels) : readText part = some (outside, labels) := by
  have hend := h []
  rw [List.append_nil, readText, Option.map_some, List.append_nil, List.append_nil] at hend
  exact hend

end Reads

/-- The label of a function in a graph. -/
def Row.label (row : Row) : String := row.name ++ " (" ++ percentText row.share ++ ")"

/-- The label of an edge in a graph. -/
def Arc.label (arc : Arc) : String := percentText arc.share

/-- The labels of a graph in the order in which they are written. -/
def View.labels (v : View) : List String := v.rows.map Row.label ++ v.arcs.map Arc.label

/-- A line that ends in a label. -/
def labelledLine (before label : String) : String := before ++ " [label=" ++ quotedLabel label ++ "];"

/-- The text of a graph with ids and labels for its functions and edges. -/
def View.textWith (v : View) (idOf : Frame → String) (rowLabel : Row → String) (arcLabel : Arc → String) :
    String :=
  joinLines (["digraph G \x7b", "  node [ shape=box ];"] ++
    v.rows.map (fun row => labelledLine ("  " ++ idOf row.name) (rowLabel row)) ++
    v.arcs.map (fun arc => labelledLine ("  " ++ idOf arc.caller ++ " -> " ++ idOf arc.callee) (arcLabel arc)) ++
    ["\x7d"])

/-- The text of a graph with ids and empty labels. -/
def View.outline (v : View) (idOf : Frame → String) : String := v.textWith idOf (fun _ => "") fun _ => ""

variable {view : View} {idOf : Frame → String}

theorem View.dotText_eq (view : View) :
    view.dotText = view.textWith (nodeId (view.rows.map Row.name)) Row.label Arc.label := rfl

theorem toList_joinLines (lines : List String) (last : String) :
    (joinLines (lines ++ [last])).toList = lines.flatMap (fun line => line.toList ++ ['\n']) ++ last.toList := by
  rw [joinLines, String.toList_intercalate]
  induction lines with
  | nil => simp
  | cons line rest ih =>
    obtain ⟨next, more, hnext⟩ := List.exists_cons_of_ne_nil (l := (rest ++ [last]).map String.toList) (by simp)
    rw [List.cons_append, List.map_cons, hnext, List.intercalate_cons_cons, ← hnext, ih]
    simp

theorem Reads.labelledLine {before : String} (h : '"' ∉ before.toList) (label : String) :
    Reads (labelledLine before label).toList (labelledLine before "").toList [label.toList] := by
  have hbefore : Reads (before ++ " [label=").toList (before ++ " [label=").toList [] := .plain (by simp [h])
  have hafter : Reads "];".toList "];".toList [] := .plain (by decide)
  have hline := (hbefore.append (.quoted label)).append hafter
  rwa [← String.toList_append, ← String.toList_append, show ['"', '"'] = (quotedLabel "").toList by rfl,
    ← String.toList_append, ← String.toList_append] at hline

theorem Reads.lines {ι : Type} (xs : List ι) {line outline : ι → String} {label : ι → String}
    (h : ∀ x, Reads (line x).toList (outline x).toList [(label x).toList]) :
    Reads ((xs.map line).flatMap fun l => l.toList ++ ['\n']) ((xs.map outline).flatMap fun l => l.toList ++ ['\n'])
      ((xs.map label).map String.toList) := by
  rw [List.flatMap_map, List.flatMap_map, List.map_map, List.map_eq_flatMap]
  exact Reads.flatMap fun x _ => (h x).append (.plain (by decide))

theorem readText_textWith (h : ∀ name, '"' ∉ (idOf name).toList) (rowLabel : Row → String)
    (arcLabel : Arc → String) :
    readText (view.textWith idOf rowLabel arcLabel).toList =
      some ((view.outline idOf).toList, (view.rows.map rowLabel ++ view.arcs.map arcLabel).map String.toList) := by
  have hnode (row : Row) : '"' ∉ ("  " ++ idOf row.name).toList := by simp [h]
  have hedge (arc : Arc) : '"' ∉ ("  " ++ idOf arc.caller ++ " -> " ++ idOf arc.callee).toList := by simp [h]
  have hrows := Reads.lines view.rows fun row => .labelledLine (hnode row) (rowLabel row)
  have harcs := Reads.lines view.arcs fun arc => .labelledLine (hedge arc) (arcLabel arc)
  have hhead : Reads (["digraph G \x7b", "  node [ shape=box ];"].flatMap fun l => l.toList ++ ['\n'])
      (["digraph G \x7b", "  node [ shape=box ];"].flatMap fun l => l.toList ++ ['\n']) [] := .plain (by decide)
  have hend : Reads "\x7d".toList "\x7d".toList [] := .plain (by decide)
  have hall := ((hhead.append hrows).append harcs).append hend
  rw [View.outline, View.textWith, View.textWith, toList_joinLines, toList_joinLines]
  simp only [List.flatMap_append, List.map_append]
  simpa only [List.nil_append, List.append_nil] using hall.readText_eq

theorem quote_notMem_id (n : Nat) : '"' ∉ ("n" ++ toString n).toList := by
  intro h
  rw [String.toList_append] at h
  rcases List.mem_append.mp h with h | h
  · exact absurd h (by decide)
  · have hdigit : '"'.isDigit = true := Nat.isDigit_of_mem_toDigits (by decide) (by decide) (Nat.toList_repr ▸ h)
    exact absurd hdigit (by decide)

theorem quote_notMem_ids (view : View) (name : Frame) : '"' ∉ (view.ids.getD name "").toList := by
  rw [OrderedMap.getD]
  cases hid : view.ids.get? name with
  | none => exact List.not_mem_nil
  | some id =>
    obtain ⟨row, -, hrow⟩ := List.mem_map.mp (OrderedMap.mem_of_get?_ofList hid)
    cases hrow
    exact quote_notMem_id row.2

theorem getD_ids_of_idOf {name : Frame} {id : String} (h : view.idOf name = .ok id) :
    view.ids.getD name "" = id := by
  rw [View.idOf] at h
  rw [OrderedMap.getD]
  split at h
  · next found hfound =>
    cases h
    rw [hfound, Option.getD_some]
  · cases h

theorem eq_textWith_of_writeDot {text : String} (h : view.writeDot = .ok text) :
    text = view.textWith (fun name => view.ids.getD name "") Row.label Arc.label := by
  -- Every look-up has succeeded, so each line is the one with the id that was found.
  obtain ⟨nodes, hnodes, h⟩ := bind_eq_ok_iff.mp h
  obtain ⟨edges, hedges, h⟩ := bind_eq_ok_iff.mp h
  have hnodes : nodes = view.rows.map fun row => labelledLine ("  " ++ view.ids.getD row.name "") row.label := by
    refine eq_map_of_mapM_eq_ok hnodes fun row line hline => ?_
    obtain ⟨id, hid, hline⟩ := bind_eq_ok_iff.mp hline
    cases hline
    rw [getD_ids_of_idOf hid]
    rfl
  have hedges : edges = view.arcs.map fun arc =>
      labelledLine ("  " ++ view.ids.getD arc.caller "" ++ " -> " ++ view.ids.getD arc.callee "") arc.label := by
    refine eq_map_of_mapM_eq_ok hedges fun arc line hline => ?_
    obtain ⟨caller, hcaller, hline⟩ := bind_eq_ok_iff.mp hline
    obtain ⟨callee, hcallee, hline⟩ := bind_eq_ok_iff.mp hline
    cases hline
    rw [getD_ids_of_idOf hcaller, getD_ids_of_idOf hcallee, dotEdge, ← quotedLabel_percentText]
    rfl
  cases h
  rw [hnodes, hedges]
  rfl

/-- A label is escaped by doubling its backslashes and then putting one before each quote, and is read back up to
the quote behind it, which is the first that no backslash takes. Distinct labels stay distinct. So from the text
of a graph exactly its labels are read, whatever the names of functions, and outside them stands the same graph
with empty labels. -/
theorem labels_read_back :
    (∀ label : List Char,
      escapeLabel label = replaceEach '"' ['\\', '"'] (replaceEach '\\' ['\\', '\\'] label)) ∧
    (∀ label after : List Char,
      readLabel (escapeLabel label ++ '"' :: after) = some ((escapeLabel label).length, label)) ∧
    (∀ a b : String, quotedLabel a = quotedLabel b ↔ a = b) ∧
    (∀ view : View, readText view.dotText.toList =
      some ((view.outline (nodeId (view.rows.map Row.name))).toList, view.labels.map String.toList)) ∧
    ∀ (view : View) (text : String), view.writeDot = .ok text → readText text.toList =
      some ((view.outline fun name => view.ids.getD name "").toList, view.labels.map String.toList) := by
  refine ⟨escapeLabel_eq_replaceEach, readLabel_escapeLabel, fun a b => quotedLabel_inj, fun view => ?_,
    fun view text h => ?_⟩
  · rw [View.dotText_eq]
    exact readText_textWith (fun name => quote_notMem_id _) Row.label Arc.label
  · rw [eq_textWith_of_writeDot h]
    exact readText_textWith (quote_notMem_ids view) Row.label Arc.label

/-- A name that would close its label, and one that ends in a backslash. -/
theorem labels_read_back_closing_name :
    let view : View := ⟨2, [⟨"a\"];\n", 1, .ofInt 50⟩, ⟨"\\\"b\\", 1, .ofInt 50⟩],
      [⟨"a\"];\n", "\\\"b\\", 1, .ofInt 50⟩]⟩
    ∃ text outside, view.writeDot = .ok text ∧ readText text.toList =
      some (outside, ["a\"];\n (50.0%)".toList, "\\\"b\\ (50.0%)".toList, "50.0%".toList]) := by
  intro view
  have hwritten : view.writeDot = .ok view.dotText := (drawn_of_ends (by decide) (by decide)).written
  have hlabels : view.labels.map String.toList =
      ["a\"];\n (50.0%)".toList, "\\\"b\\ (50.0%)".toList, "50.0%".toList] := by decide +kernel
  obtain ⟨-, -, -, -, hread⟩ := labels_read_back
  exact ⟨view.dotText, _, hwritten, hlabels ▸ hread view _ hwritten⟩

end StackQuery.Report
