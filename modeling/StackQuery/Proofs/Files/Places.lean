import StackQuery.Files.Tree

/-!
# Places on the way to a path

Where a path leads depends on what stands at the places on the way to it. Trees that hold the same there cannot
be told apart by opening the file. Nor can they by creating one: what is made on the way to it is the same in both,
so that trees that held the same somewhere still do.
-/
namespace StackQuery.Files

namespace Path

/-- The places that are entered from a directory on. -/
def placesFrom (dir : Path) : List String → List Path
  | [] => []
  | part :: rest =>
    if part == ".." then placesFrom dir.climb rest
    else dir.child part :: placesFrom (dir.child part) rest

/-- The places on the way to a path. -/
def way (p : Path) : List Path := placesFrom ⟨p.root, []⟩ p.parts

theorem placesFrom_subset {xs ys : List String} (h : xs <+: ys) (dir : Path) :
    placesFrom dir xs ⊆ placesFrom dir ys := by
  obtain ⟨zs, rfl⟩ := h
  induction xs generalizing dir with
  | nil => exact List.nil_subset _
  | cons part xs ih =>
    rw [List.cons_append, placesFrom, placesFrom]
    split
    · exact ih dir.climb
    · exact List.cons_subset_cons _ (ih (dir.child part))

theorem way_parent_subset (p : Path) : p.parent.way ⊆ p.way :=
  placesFrom_subset (List.dropLast_prefix p.parts) _

end Path

namespace Tree

/-- What a tree holds at a place: the content of a file, and whether there is a directory. -/
def holds (t : Tree) (q : Path) : Option (List UInt8) × Bool := (t.files.lookup q, t.hasDirectory q)

/-- Trees hold the same at some places. -/
def Agree (among : Path → Prop) (t u : Tree) : Prop := ∀ q, among q → t.holds q = u.holds q

/-- The creation of a file ends alike in two trees: the file is there, or it is in neither for the same reason. -/
def SameRoom (p : Path) (t u : Tree) : Prop := (t.create p).1 = (u.create p).1

/-- Trees that hold the same somewhere still do after a change of both. -/
def Keeps (change : Tree → Tree) : Prop :=
  ∀ (among : Path → Prop) (t u : Tree), Agree among t u → Agree among (change t) (change u)

variable {among : Path → Prop} {t u : Tree} {p : Path}

theorem enter_congr {dir : Path} {part : String}
    (h : part ≠ ".." → t.holds (dir.child part) = u.holds (dir.child part)) :
    t.enter (.directory dir) part = u.enter (.directory dir) part := by
  simp only [enter]
  split
  · rfl
  · next hdown =>
    obtain ⟨hfile, hdirectory⟩ := Prod.mk.inj (h (by simpa using hdown))
    rw [hfile, hdirectory]

theorem enter_directory {dir inner : Path} {part : String}
    (h : t.enter (.directory dir) part = .ok (.directory inner)) :
    inner = if part == ".." then dir.climb else dir.child part := by
  simp only [enter] at h
  split at h
  · next hup =>
    cases h
    rw [if_pos hup]
  · next hdown =>
    rw [if_neg hdown]
    split at h
    · cases h
    · split at h
      · cases h
      · split at h <;> cases h
        rfl

theorem walk_congr {parts : List String} {dir : Path} (h : Agree (· ∈ Path.placesFrom dir parts) t u) :
    parts.foldlM t.enter (.directory dir) = parts.foldlM u.enter (.directory dir) := by
  induction parts generalizing dir with
  | nil => rfl
  | cons part rest ih =>
    have hstep : t.enter (.directory dir) part = u.enter (.directory dir) part := by
      refine enter_congr fun hpart => h _ ?_
      rw [Path.placesFrom, if_neg (by simpa using hpart)]
      exact List.mem_cons_self
    rw [List.foldlM_cons, List.foldlM_cons, ← hstep]
    cases hentered : t.enter (.directory dir) part with
    | error fault => rfl
    | ok entry =>
      cases entry with
      | directory inner =>
        refine ih fun q hq => h q ?_
        rw [enter_directory hentered] at hq
        rw [Path.placesFrom]
        split
        · next hup => rwa [if_pos hup] at hq
        · next hdown =>
          rw [if_neg hdown] at hq
          exact List.mem_cons_of_mem _ hq
      | file content => cases rest <;> rfl

theorem lookup_congr (h : Agree (· ∈ p.way) t u) : t.lookup p = u.lookup p := by
  rw [lookup, lookup, walk_congr h]

theorem present_congr (h : Agree (· ∈ p.way) t u) : t.present p = u.present p := by
  rw [present, present, lookup_congr h]

theorem openFile_congr (h : Agree (· ∈ p.way) t u) : t.openFile p = u.openFile p := by
  rw [openFile, openFile, lookup_congr h]

theorem leadsToDirectory_congr (h : Agree (· ∈ p.way) t u) : t.leadsToDirectory p = u.leadsToDirectory p := by
  rw [leadsToDirectory, leadsToDirectory, lookup_congr h]

theorem holds_insert (t : Tree) (p : Path) (content : List UInt8) (q : Path) :
    (t.insert p content).holds q =
      (if q = p.collapse then some content else (t.holds q).1, (t.holds q).2 || p.collapse.isBelow q) := by
  have hfile : (t.insert p content).files.lookup q = if q = p.collapse then some content else t.files.lookup q := by
    rw [insert, List.lookup_cons]
    by_cases hq : q = p.collapse
    · simp [hq]
    · rw [if_neg hq, beq_eq_false_iff_ne.mpr hq]
  have hdirectory : (t.insert p content).hasDirectory q = (t.hasDirectory q || p.collapse.isBelow q) := by
    simp only [hasDirectory, insert, List.any_cons]
    cases q.parts.all (· == "..") <;> cases t.directories.any (fun d => d == q || d.isBelow q) <;>
      cases p.collapse.isBelow q <;> simp
  rw [holds, hfile, hdirectory, holds]

theorem holds_insertDirectory (t : Tree) (p q : Path) :
    (t.insertDirectory p).holds q = ((t.holds q).1, (t.holds q).2 || (p.collapse == q || p.collapse.isBelow q)) := by
  simp only [holds, hasDirectory, insertDirectory, List.any_cons]
  cases q.parts.all (· == "..") <;> cases t.directories.any (fun d => d == q || d.isBelow q) <;>
    cases t.files.any (fun f => f.1.isBelow q) <;> simp

theorem keeps_id : Keeps id := fun _ _ _ h => h

theorem Keeps.comp {f g : Tree → Tree} (hf : Keeps f) (hg : Keeps g) : Keeps (f ∘ g) :=
  fun among t u h => hf among _ _ (hg among t u h)

theorem keeps_insert (p : Path) (content : List UInt8) : Keeps (·.insert p content) := by
  intro among t u h q hq
  rw [holds_insert, holds_insert, h q hq]

theorem keeps_insertDirectory (p : Path) : Keeps (·.insertDirectory p) := by
  intro among t u h q hq
  rw [holds_insertDirectory, holds_insertDirectory, h q hq]

theorem agree_insert (hplace : ¬ among p.collapse)
    (hdirectory : ∀ q, among q → p.collapse.isBelow q = true → t.hasDirectory q = true) (content : List UInt8) :
    Agree among t (t.insert p content) := by
  intro q hq
  have hne : q ≠ p.collapse := fun heq => hplace (heq ▸ hq)
  rw [holds_insert, if_neg hne, holds]
  cases hbelow : p.collapse.isBelow q with
  | false => simp
  | true => simp [hdirectory q hq hbelow]

/-- A directory is made in both trees, or in neither for the same reason. -/
theorem makeDirectory_congr (h : Agree (· ∈ p.way) t u) :
    (∃ fault, t.makeDirectory p = .error fault ∧ u.makeDirectory p = .error fault) ∨
      t.makeDirectory p = .ok (t.insertDirectory p) ∧ u.makeDirectory p = .ok (u.insertDirectory p) := by
  have hparent : t.leadsToDirectory p.parent = u.leadsToDirectory p.parent :=
    leadsToDirectory_congr fun q hq => h q (p.way_parent_subset hq)
  rw [makeDirectory, makeDirectory, ← lookup_congr h, ← hparent]
  cases t.lookup p with
  | ok entry => exact .inl ⟨_, rfl, rfl⟩
  | error fault =>
    cases fault with
    | missing =>
      cases t.leadsToDirectory p.parent with
      | true => exact .inr ⟨rfl, rfl⟩
      | false => exact .inl ⟨_, rfl, rfl⟩
    | taken | notDirectory | directory | tooLong => exact .inl ⟨_, rfl, rfl⟩

/-- The directories on the way to a place are made alike in trees that hold the same there. -/
theorem makeDirectories_congr {root : String} {parts : List String}
    (h : Agree (· ∈ (⟨root, parts.reverse⟩ : Path).way) t u) :
    ∃ result change, Keeps change ∧ makeDirectories root parts t = (result, change t) ∧
      makeDirectories root parts u = (result, change u) := by
  induction parts generalizing t u with
  | nil => exact ⟨_, id, keeps_id, rfl, rfl⟩
  | cons part outer ih =>
    have houter : Agree (· ∈ (⟨root, outer.reverse⟩ : Path).way) t u := fun q hq =>
      h q (Path.placesFrom_subset (by simp) _ hq)
    rw [makeDirectories, makeDirectories]
    dsimp only
    obtain ⟨fault, ht, hu⟩ | ⟨ht, hu⟩ := makeDirectory_congr h
    · rw [ht, hu]
      cases fault with
      | missing =>
        obtain ⟨result, change, hkeeps, houterT, houterU⟩ := ih houter
        have hmade := hkeeps _ _ _ h
        dsimp only
        rw [houterT, houterU]
        cases result with
        | error e => exact ⟨_, change, hkeeps, rfl, rfl⟩
        | ok =>
          dsimp only
          obtain ⟨fault, ht, hu⟩ | ⟨ht, hu⟩ := makeDirectory_congr hmade
          · rw [ht, hu]
            dsimp only
            rw [leadsToDirectory_congr hmade]
            exact ⟨_, change, hkeeps, rfl, rfl⟩
          · rw [ht, hu]
            exact ⟨_, _, (keeps_insertDirectory _).comp hkeeps, rfl, rfl⟩
      | taken | notDirectory | directory | tooLong =>
        dsimp only
        rw [leadsToDirectory_congr h]
        exact ⟨_, id, keeps_id, rfl, rfl⟩
    · rw [ht, hu]
      exact ⟨_, _, keeps_insertDirectory _, rfl, rfl⟩

/-- A file is created alike in trees that hold the same on the way to it and at its place. -/
theorem create_congr (hway : Agree (· ∈ p.way) t u) (hplace : Agree (· ∈ p.collapse.way) t u) :
    ∃ result change, Keeps change ∧ t.create p = (result, change t) ∧ u.create p = (result, change u) := by
  rw [create, create]
  split
  · exact ⟨_, id, keeps_id, rfl, rfl⟩
  · have hparent : Agree (· ∈ (⟨p.root, p.parent.parts.reverse.reverse⟩ : Path).way) t u := fun q hq =>
      hway q (p.way_parent_subset (by rwa [List.reverse_reverse] at hq))
    obtain ⟨result, change, hkeeps, ht, hu⟩ := makeDirectories_congr hparent
    rw [ht, hu]
    cases result with
    | error e => exact ⟨_, change, hkeeps, rfl, rfl⟩
    | ok =>
      dsimp only
      rw [openFile_congr (hkeeps _ _ _ hplace)]
      cases (change u).openFile p.collapse with
      | ok content => exact ⟨_, change, hkeeps, rfl, rfl⟩
      | error e =>
        cases e with
        | nul e => exact ⟨_, change, hkeeps, rfl, rfl⟩
        | refused fault path =>
          cases fault with
          | missing => exact ⟨_, _, (keeps_insert p []).comp hkeeps, rfl, rfl⟩
          | taken | notDirectory | directory | tooLong => exact ⟨_, change, hkeeps, rfl, rfl⟩

theorem sameRoom_of_agree (hway : Agree (· ∈ p.way) t u) (hplace : Agree (· ∈ p.collapse.way) t u) :
    SameRoom p t u := by
  obtain ⟨result, change, -, ht, hu⟩ := create_congr hway hplace
  rw [SameRoom, ht, hu]

end Tree

end StackQuery.Files
