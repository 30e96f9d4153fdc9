import Mathlib.Data.List.Nodup
import StackQuery.Proofs.Counts.Coherent
import StackQuery.Proofs.Report.CallTree

/-!
# Call trees as prefix trees

A tree that is built by adding paths is the prefix tree of these paths: its root counts all of them and those
that are empty, it has a child for every first frame, in the order in which these were first seen, and below a
child is the prefix tree of what is left of the paths that begin with its name. Adding a path to the prefix tree
of any paths gives that of these paths and the path. So a node says, for the path that leads to it, which stacks
begin with it and which is equal to it, and the stacks can be read back from the tree.
-/
namespace StackQuery.Report

/-- The counts of the paths that pass a test, added up. -/
def pathSum (paths : List (List Frame × Int)) (test : List Frame → Bool) : Int :=
  (paths.map fun e => if test e.1 then e.2 else 0).sum

/-- What is left, behind a beginning, of the paths that have it. -/
def beyond (start : List Frame) (paths : List (List Frame × Int)) : List (List Frame × Int) :=
  paths.filterMap fun e => if start <+: e.1 then some (e.1.drop start.length, e.2) else none

/-- The first frames of paths, in the order in which they were first seen. -/
def firstFrames (paths : List (List Frame × Int)) : List Frame := (paths.filterMap (·.1.head?)).eraseDups

variable {paths : List (List Frame × Int)} {frame : Frame} {start path : List Frame} {count : Int}

theorem pathSum_append (paths others : List (List Frame × Int)) (test : List Frame → Bool) :
    pathSum (paths ++ others) test = pathSum paths test + pathSum others test := by
  rw [pathSum, List.map_append, List.sum_append]
  rfl

@[simp] theorem beyond_nil (paths : List (List Frame × Int)) : beyond [] paths = paths := by
  simp [beyond]

theorem beyond_append (start : List Frame) (paths others : List (List Frame × Int)) :
    beyond start (paths ++ others) = beyond start paths ++ beyond start others :=
  List.filterMap_append

theorem beyond_cons (frame : Frame) (start : List Frame) (paths : List (List Frame × Int)) :
    beyond (frame :: start) paths = beyond start (beyond [frame] paths) := by
  rw [beyond, beyond, beyond, List.filterMap_filterMap]
  refine List.filterMap_congr fun e _ => ?_
  obtain ⟨path, count⟩ := e
  cases path with
  | nil => simp
  | cons first rest =>
    by_cases h : frame = first
    · simp [h, List.cons_prefix_cons]
    · simp [h, List.cons_prefix_cons]

theorem beyond_singleton_cons (frame : Frame) (path : List Frame) (count : Int) :
    beyond [frame] [(frame :: path, count)] = [(path, count)] := by
  simp [beyond]

theorem beyond_singleton_of_ne (h : path.head? ≠ some frame) : beyond [frame] [(path, count)] = [] := by
  cases path with
  | nil => simp [beyond]
  | cons first rest =>
    have hne : ¬ frame = first := fun heq => h (heq ▸ rfl)
    simp [beyond, List.cons_prefix_cons, hne]

theorem beyond_ne_nil_iff : beyond start paths ≠ [] ↔ ∃ e ∈ paths, start <+: e.1 := by
  simp [beyond, List.filterMap_eq_nil_iff]

theorem mem_firstFrames : frame ∈ firstFrames paths ↔ beyond [frame] paths ≠ [] := by
  rw [beyond_ne_nil_iff, firstFrames, List.mem_eraseDups, List.mem_filterMap]
  refine exists_congr fun e => and_congr_right fun _ => ?_
  obtain ⟨path, count⟩ := e
  cases path with
  | nil => simp
  | cons first rest => simp [List.cons_prefix_cons, eq_comm]

theorem firstFrames_append_nil (paths : List (List Frame × Int)) (count : Int) :
    firstFrames (paths ++ [([], count)]) = firstFrames paths := by
  simp [firstFrames, List.filterMap_append, List.filterMap_cons]

theorem firstFrames_append_cons (paths : List (List Frame × Int)) (frame : Frame) (path : List Frame)
    (count : Int) :
    firstFrames (paths ++ [(frame :: path, count)]) =
      if frame ∈ firstFrames paths then firstFrames paths else firstFrames paths ++ [frame] := by
  simp only [firstFrames, List.filterMap_append, List.filterMap_cons, List.head?_cons, List.filterMap_nil,
    eraseDups_append_singleton, List.mem_eraseDups]

theorem pathSum_beyond (start : List Frame) (paths : List (List Frame × Int)) (test : List Frame → Bool) :
    pathSum (beyond start paths) test = pathSum paths fun path => start <+: path && test (path.drop start.length) := by
  induction paths with
  | nil => rfl
  | cons e rest ih =>
    rw [show e :: rest = [e] ++ rest from rfl, beyond_append, pathSum_append, pathSum_append, ih]
    congr 1
    by_cases h : start <+: e.1 <;> simp [beyond, pathSum, h]

theorem nodup_firstFrames (paths : List (List Frame × Int)) : (firstFrames paths).Nodup :=
  nodup_eraseDups _

/-- A path with a frame in front. -/
def prepend (frame : Frame) (e : List Frame × Int) : List Frame × Int := (frame :: e.1, e.2)

theorem map_prepend_beyond (frame : Frame) (paths : List (List Frame × Int)) :
    (beyond [frame] paths).map (prepend frame) = paths.filter (·.1.head? = some frame) := by
  rw [beyond, List.map_filterMap, ← List.filterMap_eq_filter]
  refine List.filterMap_congr fun e _ => ?_
  obtain ⟨path, count⟩ := e
  cases path with
  | nil => simp [Option.guard]
  | cons first rest =>
    by_cases h : frame = first
    · simp [List.cons_prefix_cons, prepend, h]
    · have hne : ¬ first = frame := fun heq => h heq.symm
      simp [List.cons_prefix_cons, Option.guard, h, hne]

theorem filter_head_perm {frames : List Frame} (h : frames.Nodup) (paths : List (List Frame × Int)) :
    (paths.filter fun e => e.1.head?.any (· ∈ frames)).Perm
      (frames.flatMap fun frame => paths.filter (·.1.head? = some frame)) := by
  induction frames with
  | nil => simp
  | cons frame rest ih =>
    obtain ⟨hframe, hrest⟩ := List.nodup_cons.mp h
    rw [List.flatMap_cons]
    -- the paths of the first name are taken out; no other name has any of them, as names are distinct
    refine (List.filter_append_perm (·.1.head? = some frame) _).symm.trans ?_
    rw [List.filter_filter, List.filter_filter]
    have hfirst : (paths.filter fun e => decide (e.1.head? = some frame) && e.1.head?.any (· ∈ frame :: rest)) =
        paths.filter (·.1.head? = some frame) := by
      refine List.filter_congr fun e _ => ?_
      cases e.1.head? <;> simp +contextual
    have hothers : (paths.filter fun e => !decide (e.1.head? = some frame) && e.1.head?.any (· ∈ frame :: rest)) =
        paths.filter fun e => e.1.head?.any (· ∈ rest) := by
      refine List.filter_congr fun e _ => ?_
      cases e.1.head? with
      | none => simp
      | some first =>
        by_cases heq : first = frame
        · simp [heq, hframe]
        · simp [heq]
    rw [hfirst, hothers]
    exact (ih hrest).append_left _

/-- Paths are those that are empty and, for every first frame, those that begin with it. -/
theorem perm_by_firstFrames (paths : List (List Frame × Int)) :
    paths.Perm (paths.filter (·.1 = []) ++
      (firstFrames paths).flatMap fun frame => (beyond [frame] paths).map (prepend frame)) := by
  simp only [map_prepend_beyond]
  refine (List.filter_append_perm (·.1 = []) paths).symm.trans (List.Perm.append_left _ ?_)
  refine List.Perm.trans (List.Perm.of_eq ?_) (filter_head_perm (nodup_firstFrames paths) paths)
  refine List.filter_congr fun e he => ?_
  cases hpath : e.1 with
  | nil => simp
  | cons first rest =>
    have hfirst : first ∈ firstFrames paths :=
      mem_firstFrames.mpr (beyond_ne_nil_iff.mpr ⟨e, he, hpath ▸ ⟨rest, rfl⟩⟩)
    simp [hfirst]

theorem pathSum_perm {others : List (List Frame × Int)} (h : paths.Perm others) (test : List Frame → Bool) :
    pathSum paths test = pathSum others test :=
  (h.map _).sum_eq

theorem pathSum_filter (paths : List (List Frame × Int)) (test : List Frame → Bool) :
    pathSum (paths.filter fun e => test e.1) (fun _ => true) = pathSum paths test := by
  induction paths with
  | nil => rfl
  | cons e rest ih =>
    unfold pathSum at ih ⊢
    by_cases h : test e.1 <;> simp [h] at ih ⊢ <;> exact ih

theorem pathSum_flatMap (frames : List Frame) (group : Frame → List (List Frame × Int)) (test : List Frame → Bool) :
    pathSum (frames.flatMap group) test = (frames.map fun frame => pathSum (group frame) test).sum := by
  induction frames with
  | nil => rfl
  | cons frame rest ih => rw [List.flatMap_cons, pathSum_append, ih, List.map_cons, List.sum_cons]

/-- All counts are those of the empty paths and those behind every first frame. -/
theorem pathSum_by_firstFrames (paths : List (List Frame × Int)) :
    pathSum paths (fun _ => true) = pathSum paths (· = []) +
      ((firstFrames paths).map fun frame => pathSum (beyond [frame] paths) fun _ => true).sum := by
  rw [pathSum_perm (perm_by_firstFrames paths), pathSum_append, pathSum_filter paths (· = []), pathSum_flatMap]
  simp [pathSum, prepend, Function.comp_def]

namespace CallNode

/-- A node counts paths, and its children what is left of them behind their names. -/
inductive IsPrefixTree : List (List Frame × Int) → CallNode → Prop where
  | intro {paths : List (List Frame × Int)} {node : CallNode}
      (total : node.total = pathSum paths fun _ => true)
      (own : node.own = pathSum paths (· = []))
      (names : node.children.map name = firstFrames paths)
      (below : ∀ child ∈ node.children, IsPrefixTree (beyond [child.name] paths) child) :
      IsPrefixTree paths node

theorem isPrefixTree_fresh (frame : Frame) : IsPrefixTree [] (fresh frame) := ⟨rfl, rfl, rfl, nofun⟩

theorem IsPrefixTree.names_eq {node : CallNode} (h : IsPrefixTree paths node) :
    node.children.map name = firstFrames paths := by
  cases h with
  | intro _ _ names _ => exact names

theorem IsPrefixTree.child {node : CallNode} (h : IsPrefixTree paths node) (frame : Frame) :
    IsPrefixTree (beyond [frame] paths) ((child? frame node.children).getD (fresh frame)) := by
  obtain ⟨_, _, hnames, hbelow⟩ := h
  cases hfind : child? frame node.children with
  | none =>
    have hnone : beyond [frame] paths = [] := by
      by_contra hsome
      rw [← ne_eq, ← mem_firstFrames, ← hnames] at hsome
      obtain ⟨child, hchild, hname⟩ := List.mem_map.mp hsome
      simpa [hname] using List.find?_eq_none.mp hfind child hchild
    rw [hnone]
    exact isPrefixTree_fresh frame
  | some child =>
    have hname : child.name = frame := by simpa [child?] using List.find?_some hfind
    exact hname ▸ hbelow child (List.mem_of_find?_eq_some hfind)

/-- Adding a path to the prefix tree of paths gives that of the paths and the new one. -/
theorem IsPrefixTree.addPath {node : CallNode} (h : IsPrefixTree paths node) (path : List Frame) (count : Int) :
    IsPrefixTree (paths ++ [(path, count)]) (node.addPath path count) := by
  induction path generalizing paths node with
  | nil =>
    obtain ⟨name, total, own, children⟩ := node
    obtain ⟨htotal, hown, hnames, hbelow⟩ := h
    constructor
    · rw [pathSum_append, ← htotal, total_addPath]
      simp [pathSum]
    · rw [pathSum_append, ← hown]
      simp [pathSum, CallNode.addPath, CallNode.own]
    · rw [firstFrames_append_nil, ← hnames]
      rfl
    · intro child hchild
      rw [beyond_append, beyond_singleton_of_ne (by simp), List.append_nil]
      exact hbelow child hchild
  | cons frame path ih =>
    obtain ⟨name, total, own, children⟩ := node
    have hold := h.child frame
    obtain ⟨htotal, hown, hnames, hbelow⟩ := h
    have hname := name_addPath path count
    have hupdated : (updateChild frame (CallNode.addPath path count) children).map CallNode.name =
        firstFrames (paths ++ [(frame :: path, count)]) := by
      rw [names_updateChild hname, firstFrames_append_cons, ← hnames]
      rfl
    constructor
    · rw [pathSum_append, ← htotal, total_addPath]
      simp [pathSum]
    · rw [pathSum_append, ← hown]
      simp [pathSum, CallNode.addPath, CallNode.own]
    · exact hupdated
    · intro child hchild
      have hfind : child? child.name (updateChild frame (CallNode.addPath path count) children) = some child :=
        child?_of_mem (hupdated ▸ nodup_firstFrames _) hchild
      rw [child?_updateChild hname] at hfind
      rw [beyond_append]
      -- the child of the first frame takes the rest of the path, every other child is as it was
      by_cases hframe : frame = child.name
      · rw [if_pos hframe] at hfind
        rw [← hframe, beyond_singleton_cons, ← Option.some.inj hfind]
        exact ih hold
      · rw [if_neg hframe] at hfind
        have hne : (frame :: path).head? ≠ some child.name := fun heq => hframe (Option.some.inj heq)
        rw [beyond_singleton_of_ne hne, List.append_nil]
        exact hbelow child (List.mem_of_find?_eq_some hfind)

/-- The node that a path leads to is the prefix tree of what is left behind the path. -/
theorem IsPrefixTree.of_reaches {node target : CallNode} (h : IsPrefixTree paths node)
    (hreaches : node.Reaches path target) : IsPrefixTree (beyond path paths) target := by
  induction hreaches generalizing paths with
  | here node => rwa [beyond_nil]
  | @down node child target path isChild _ ih =>
    obtain ⟨_, _, _, below⟩ := h
    rw [beyond_cons]
    exact ih (below child isChild)

/-- The paths that lead to a node are the beginnings of the paths of the tree. -/
theorem IsPrefixTree.exists_reaches_iff {node : CallNode} (h : IsPrefixTree paths node) (path : List Frame) :
    (∃ target, node.Reaches path target) ↔ path = [] ∨ ∃ e ∈ paths, path <+: e.1 := by
  induction path generalizing paths node with
  | nil => exact iff_of_true ⟨node, .here node⟩ (.inl rfl)
  | cons frame path ih =>
    rw [← beyond_ne_nil_iff, or_iff_right (List.cons_ne_nil _ _)]
    have hnames := h.names_eq
    obtain ⟨_, _, _, below⟩ := h
    constructor
    · rintro ⟨target, hreaches⟩
      cases hreaches with
      | @down _ child _ _ hchild honward =>
        have hleft := (ih (below child hchild)).mp ⟨target, honward⟩
        rw [beyond_cons, beyond_ne_nil_iff]
        -- a child is there for a first frame, so some path begins with its name
        rcases hleft with rfl | hleft
        · have hfirst : child.name ∈ firstFrames paths := hnames ▸ List.mem_map_of_mem hchild
          obtain ⟨e, he⟩ := List.exists_mem_of_ne_nil _ (mem_firstFrames.mp hfirst)
          exact ⟨e, he, List.nil_prefix⟩
        · exact hleft
    · intro hleft
      rw [beyond_cons] at hleft
      have hfirst : beyond [frame] paths ≠ [] := by
        rintro hnone
        rw [hnone] at hleft
        exact hleft rfl
      rw [← mem_firstFrames, ← hnames] at hfirst
      obtain ⟨child, hchild, rfl⟩ := List.mem_map.mp hfirst
      obtain ⟨target, honward⟩ := (ih (below child hchild)).mpr (.inr (beyond_ne_nil_iff.mp hleft))
      exact ⟨target, .down hchild honward⟩

/-- The samples that pass through a node end at it or pass through one of its children. -/
theorem IsPrefixTree.total_eq {node : CallNode} (h : IsPrefixTree paths node) :
    node.total = node.own + (node.children.map total).sum := by
  obtain ⟨htotal, hown, hnames, below⟩ := h
  have hchildren : node.children.map total =
      node.children.map fun child => pathSum (beyond [child.name] paths) fun _ => true := by
    refine List.map_congr_left fun child hchild => ?_
    cases below child hchild with
    | intro total _ _ _ => exact total
  rw [htotal, hown, hchildren, pathSum_by_firstFrames, ← hnames, List.map_map]
  rfl

mutual

/-- The paths that end at a node or below it, with the samples that end there; a node where none end is
passed over. -/
def endings : CallNode → List (List Frame × Int)
  | mk _ _ own children => (if own = 0 then [] else [([], own)]) ++ endingsBelow children

/-- The paths that end at nodes or below them, from their parent on. -/
def endingsBelow : List CallNode → List (List Frame × Int)
  | [] => []
  | child :: rest => child.endings.map (prepend child.name) ++ endingsBelow rest

end

theorem endingsBelow_eq_flatMap (children : List CallNode) :
    endingsBelow children = children.flatMap fun child => child.endings.map (prepend child.name) := by
  induction children with
  | nil => rfl
  | cons child rest ih => rw [endingsBelow, ih, List.flatMap_cons]

theorem endings_eq (node : CallNode) :
    node.endings = (if node.own = 0 then [] else [([], node.own)]) ++
      node.children.flatMap fun child => child.endings.map (prepend child.name) := by
  obtain ⟨name, total, own, children⟩ := node
  rw [endings, endingsBelow_eq_flatMap]
  rfl

theorem nodup_beyond (h : (paths.map Prod.fst).Nodup) (frame : Frame) :
    ((beyond [frame] paths).map Prod.fst).Nodup := by
  have hcons : ((beyond [frame] paths).map Prod.fst).map (frame :: ·) =
      (paths.filter (·.1.head? = some frame)).map Prod.fst := by
    rw [← map_prepend_beyond, List.map_map, List.map_map]
    rfl
  have hnodup : ((paths.filter (·.1.head? = some frame)).map Prod.fst).Nodup :=
    h.sublist (List.filter_sublist.map Prod.fst)
  rw [← hcons] at hnodup
  exact List.Nodup.of_map _ hnodup

theorem filter_of_all_nil (hnodup : (paths.map Prod.fst).Nodup) (hnil : ∀ e ∈ paths, e.1 = []) :
    paths.filter (·.2 ≠ 0) =
      if pathSum paths (fun _ => true) = 0 then [] else [([], pathSum paths fun _ => true)] := by
  match paths with
  | [] => rfl
  | [(path, count)] =>
    obtain rfl : path = [] := hnil _ List.mem_cons_self
    by_cases hzero : count = 0 <;> simp [pathSum, hzero]
  | e :: e' :: rest =>
    have hfirst := hnil e List.mem_cons_self
    have hsecond := hnil e' (List.mem_cons_of_mem _ List.mem_cons_self)
    simp [hfirst, hsecond] at hnodup

/-- The paths that are read back are those that the tree was built from and that have a count. -/
theorem IsPrefixTree.endings_perm {node : CallNode} (h : IsPrefixTree paths node)
    (hnodup : (paths.map Prod.fst).Nodup) : node.endings.Perm (paths.filter (·.2 ≠ 0)) := by
  induction h with
  | @intro paths node total own names below ih =>
    have hgroups : paths.filter (·.2 ≠ 0) |>.Perm
        ((paths.filter (·.1 = [])).filter (·.2 ≠ 0) ++ (node.children.flatMap fun child =>
          ((beyond [child.name] paths).filter (·.2 ≠ 0)).map (prepend child.name))) := by
      refine ((perm_by_firstFrames paths).filter _).trans (List.Perm.of_eq ?_)
      rw [List.filter_append, List.filter_flatMap, ← names, List.flatMap_map]
      simp only [List.filter_map, Function.comp_def, prepend]
      rfl
    -- paths are distinct, so the own samples of a node are those of one path or of none
    have hends : (if pathSum paths (· = []) = 0 then [] else [([], pathSum paths (· = []))]) =
        (paths.filter (·.1 = [])).filter (·.2 ≠ 0) := by
      rw [filter_of_all_nil (hnodup.sublist (List.filter_sublist.map Prod.fst))
        fun e he => of_decide_eq_true (List.mem_filter.mp he).2, pathSum_filter paths (· = [])]
    rw [endings_eq, own, hends]
    refine List.Perm.trans (List.Perm.append_left _ ?_) hgroups.symm
    refine List.Perm.flatMap_left _ fun child hchild => ?_
    exact (ih child hchild (nodup_beyond hnodup child.name)).map _

end CallNode

namespace CallTree

open CallNode (IsPrefixTree)

/-- Stacks as the paths along which they are added. -/
def pathsOf (inverted : Bool) (entries : List (List Frame × Int)) : List (List Frame × Int) :=
  entries.map fun e => (direction inverted e.1, e.2)

variable {inverted : Bool} {entries : List (List Frame × Int)}

@[simp] theorem direction_direction (inverted : Bool) (stack : List Frame) :
    direction inverted (direction inverted stack) = stack := by
  cases inverted <;> simp [direction]

theorem direction_eq_iff {stack : List Frame} :
    direction inverted stack = path ↔ stack = direction inverted path := by
  constructor
  · rintro rfl
    exact (direction_direction inverted stack).symm
  · rintro rfl
    exact direction_direction inverted path

@[simp] theorem pathsOf_pathsOf : pathsOf inverted (pathsOf inverted entries) = entries := by
  simp [pathsOf, Function.comp_def]

theorem nodup_pathsOf (h : (entries.map Prod.fst).Nodup) : ((pathsOf inverted entries).map Prod.fst).Nodup := by
  rw [pathsOf, List.map_map]
  refine List.Nodup.of_map (direction inverted) ?_
  rw [List.map_map]
  simpa [Function.comp_def] using h

theorem isPrefixTree_foldl_addPath {root : CallNode} (h : IsPrefixTree paths root) (inverted : Bool)
    (entries : List (List Frame × Int)) :
    IsPrefixTree (paths ++ pathsOf inverted entries)
      (entries.foldl (fun root e => root.addPath (direction inverted e.1) e.2) root) := by
  induction entries generalizing root paths with
  | nil => simpa [pathsOf] using h
  | cons e rest ih => simpa [pathsOf] using ih (h.addPath (direction inverted e.1) e.2)

theorem isPrefixTree_build (counts : Counts) (inverted : Bool) :
    IsPrefixTree (pathsOf inverted counts.stacks.entries) (build counts inverted).root :=
  isPrefixTree_foldl_addPath (CallNode.isPrefixTree_fresh "") inverted counts.stacks.entries

theorem pathSum_pathsOf (paths : Tally (List Frame)) (inverted : Bool) (test : List Frame → Bool) :
    pathSum (pathsOf inverted paths.entries) test =
      paths.weight fun stack => test (direction inverted stack) := by
  rw [pathSum, pathsOf, List.map_map]
  rfl

/-- The frame of a stack behind a path that it begins with. -/
def nextFrame (inverted : Bool) (path stack : List Frame) : Option Frame :=
  if path <+: direction inverted stack then (direction inverted stack)[path.length]? else none

theorem firstFrames_beyond_pathsOf (paths : Tally (List Frame)) (inverted : Bool) (path : List Frame) :
    firstFrames (beyond path (pathsOf inverted paths.entries)) =
      (paths.keys.filterMap (nextFrame inverted path)).eraseDups := by
  rw [firstFrames, beyond, pathsOf, OrderedMap.keys, List.filterMap_map, List.filterMap_map,
    List.filterMap_filterMap]
  refine congrArg List.eraseDups (List.filterMap_congr fun e _ => ?_)
  by_cases h : path <+: direction inverted e.1 <;> simp [nextFrame, h, List.head?_drop]

/-- What a node says of the stacks that begin with the path to it. -/
structure Describes (inverted : Bool) (paths : Tally (List Frame)) (path : List Frame) (node : CallNode) :
    Prop where
  total : node.total = paths.weight fun stack => path <+: direction inverted stack
  /-- The samples that end at the node are those of the stack that is the path. -/
  own : node.own = paths.count (direction inverted path)
  split : node.total = node.own + (node.children.map CallNode.total).sum
  distinct : (node.children.map CallNode.name).Nodup
  /-- The children are the frames that follow the path, in the order in which they were first seen. -/
  names : node.children.map CallNode.name = (paths.keys.filterMap (nextFrame inverted path)).eraseDups

theorem describes_of_isPrefixTree {paths : Tally (List Frame)} {node : CallNode}
    (h : IsPrefixTree (beyond path (pathsOf inverted paths.entries)) node) :
    Describes inverted paths path node := by
  have hnames := h.names_eq
  have hsplit := h.total_eq
  obtain ⟨htotal, hown, _, _⟩ := h
  refine ⟨?_, ?_, hsplit, hnames ▸ nodup_firstFrames _, hnames.trans (firstFrames_beyond_pathsOf _ _ _)⟩
  · rw [htotal, pathSum_beyond, pathSum_pathsOf]
    simp
  · rw [hown, pathSum_beyond, pathSum_pathsOf, ← Tally.weight_eq_count]
    refine congrArg paths.weight (funext fun stack => ?_)
    rw [← Bool.decide_and, decide_eq_decide, ← direction_eq_iff]
    constructor
    · rintro ⟨⟨rest, hrest⟩, hdrop⟩
      rw [← hrest, List.drop_left] at hdrop
      rw [← hrest, hdrop, List.append_nil]
    · rintro rfl
      exact ⟨List.prefix_rfl, List.drop_length⟩

theorem describes_of_reaches {counts : Counts} {node : CallNode}
    (h : (build counts inverted).root.Reaches path node) : Describes inverted counts.stacks path node :=
  describes_of_isPrefixTree ((isPrefixTree_build counts inverted).of_reaches h)

/-- A node below the root counts stacks that its function is in, and each of them once. -/
theorem total_le_of_reaches {counts : Counts} (hcoherent : counts.Coherent) {inverted : Bool}
    {path : List Frame} {node : CallNode} (hreaches : (build counts inverted).root.Reaches path node)
    (hpath : path ≠ []) : node.total ≤ counts.functions.count node.name := by
  rw [(describes_of_reaches hreaches).total, hcoherent.functions]
  refine Tally.weight_mono hcoherent.nonneg fun stack hbegins => ?_
  have hname : node.name ∈ path := List.mem_of_getLast? (hreaches.getLast? hpath)
  exact decide_eq_true (mem_direction.mp ((of_decide_eq_true hbegins).subset hname))

/-- The stacks of a tree, with their counts. -/
def readBack (tree : CallTree) : List (List Frame × Int) := pathsOf tree.inverted tree.root.endings

theorem readBack_perm (counts : Counts) (inverted : Bool) :
    (build counts inverted).readBack.Perm (counts.stacks.entries.filter (·.2 ≠ 0)) := by
  have hends := (isPrefixTree_build counts inverted).endings_perm (nodup_pathsOf counts.stacks.nodup)
  have hfilter : (pathsOf inverted counts.stacks.entries).filter (·.2 ≠ 0) =
      pathsOf inverted (counts.stacks.entries.filter (·.2 ≠ 0)) := by
    rw [pathsOf, List.filter_map]
    rfl
  rw [hfilter] at hends
  have hback := hends.map fun e => (direction inverted e.1, e.2)
  exact hback.trans (List.Perm.of_eq pathsOf_pathsOf)

theorem readBack_perm_of_reached {counts : Counts} (h : counts.Reached) (inverted : Bool) :
    (build counts inverted).readBack.Perm counts.stacks.entries := by
  have hall : counts.stacks.entries.filter (·.2 ≠ 0) = counts.stacks.entries := by
    refine List.filter_eq_self.mpr fun e he => ?_
    have hpos := h.stacks_pos e.1 (List.mem_map_of_mem he)
    rw [Tally.count_of_mem he] at hpos
    exact decide_eq_true (by omega)
  exact hall ▸ readBack_perm counts inverted

/-- The tree of a pass is the prefix tree of its stacks: it has a node for every beginning of a stack, every
node describes the stacks that begin with its path, and the stacks that have a count can be read back: those of
passes all do. -/
theorem build_is_prefix_tree (counts : Counts) (inverted : Bool) :
    (∀ path, (∃ node, (build counts inverted).root.Reaches path node) ↔
      path = [] ∨ ∃ stack ∈ counts.stacks.keys, path <+: direction inverted stack) ∧
    (∀ path node, (build counts inverted).root.Reaches path node →
      Describes inverted counts.stacks path node) ∧
    (build counts inverted).root.total = counts.stacks.values.sum ∧
    (build counts inverted).readBack.Perm (counts.stacks.entries.filter (·.2 ≠ 0)) ∧
    (counts.Reached → (build counts inverted).readBack.Perm counts.stacks.entries) := by
  have htree := isPrefixTree_build counts inverted
  refine ⟨fun path => ?_, fun path node hreaches => ?_, ?_, readBack_perm counts inverted,
    fun hreached => readBack_perm_of_reached hreached inverted⟩
  · rw [htree.exists_reaches_iff]
    simp only [pathsOf, OrderedMap.keys, List.mem_map, exists_exists_and_eq_and]
  · exact describes_of_reaches hreaches
  · obtain ⟨htotal, _, _, _⟩ := htree
    rw [htotal, pathSum_pathsOf]
    simp [Tally.weight, OrderedMap.sumBy, OrderedMap.values]

/-- A function that calls itself through another has a node for each of its calls; and a sample that was passed
over is read back. -/
theorem build_is_prefix_tree_repeated :
    let paths : Tally (List Frame) := ((OrderedMap.empty.insert ["a", "b"] 2).insert [] 1).insert ["b", "a", "b"] 3
    let node : CallNode := .mk "b" 5 0 [.mk "a" 5 2 [.mk "b" 3 3 []]]
    let a : Aggregator := ⟨⟨".", .any⟩, .identity, .all, true, false⟩
    let counts := (a.process ["f", "g"] .empty .zero).2.2
    (build ⟨6, 6, .empty, .empty, paths⟩ true).root.Reaches ["b"] node ∧ Describes true paths ["b"] node ∧
      counts.Reached ∧ (build counts true).readBack.Perm [(["f", "g"], 1)] := by
  intro paths node a counts
  have hreaches : (build ⟨6, 6, .empty, .empty, paths⟩ true).root.Reaches ["b"] node :=
    CallNode.reaches_of_at? (by rfl)
  have hreached : counts.Reached := .process a rfl _ _ .zero
  have hstacks : counts.stacks.entries = [(["f", "g"], 1)] := by decide +kernel
  exact ⟨hreaches, (build_is_prefix_tree ⟨6, 6, .empty, .empty, paths⟩ true).2.1 _ _ hreaches, hreached,
    hstacks ▸ (build_is_prefix_tree counts true).2.2.2.2 hreached⟩

end CallTree

end StackQuery.Report
