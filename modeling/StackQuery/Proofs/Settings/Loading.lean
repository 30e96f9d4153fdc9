import StackQuery.Proofs.Settings.Overflow
import StackQuery.Proofs.Settings.Unreadable

/-!
# How loading settings fails

Loading fails for a fault of the settings, or because there is no file. What else can come out of a file that is
there and holds text is up to the loader, which may read the document or make the settings in vain for a reason of
its own, but for one case: a key of the document is no text. The standard loader breaks off at a member that is no
setting but a parameter, at a variable of a list or a record that holds no JSON, and at the regex of a rename rule
that has a number too large for its word.
-/
namespace StackQuery.Settings

/-- A failure that is no fault of the settings. -/
def Escapes {α : Type} (result : Except LoadError α) : Prop :=
  ∃ e, result = .error e ∧ e.isSettingsFault = false

/-- A result that is not that there is no file. -/
def Found {α : Type} (result : Except LoadError α) : Prop := ∀ missing, result ≠ .error (.notFound missing)

/-- The making of settings fails otherwise than for issues with them. -/
def Loader.Breaks (l : Loader) (env : Environment) (members : List (String × Yaml.Value)) : Prop :=
  ∃ cause, l.make env members = .error (.broken cause)

/-- What makes a text escape, after the references to variables in it are replaced. -/
inductive TextEscapes (l : Loader) (path : String) (env : Environment) (text : String) : Prop
  /-- The document is not read, but not because the text is none. -/
  | document {fault : Yaml.Fault} : l.read text = .error fault → fault ≠ .ill → TextEscapes l path env text
  | key {entries : List (Yaml.Value × Yaml.Value)} {e : Yaml.Value × Yaml.Value} :
      l.read text = .ok (.mapping entries) → e ∈ entries → (∀ name, e.1 ≠ .text name) → TextEscapes l path env text
  | members {value : Yaml.Value} {members : List (String × Yaml.Value)} : l.read text = .ok value →
      membersOf path value = .ok members → l.Breaks env members → TextEscapes l path env text

variable {l : Loader} {env : Environment}

theorem escapes_bind_iff {α β : Type} {x : Except LoadError α} {f : α → Except LoadError β} :
    Escapes (x >>= f) ↔ Escapes x ∨ ∃ a, x = .ok a ∧ Escapes (f a) := by
  cases x with
  | error e => simp [Escapes, bind, Except.bind]
  | ok a => simp [Escapes, bind, Except.bind]

theorem escapes_mapError_iff {ε α : Type} {f : ε → LoadError} {x : Except ε α} :
    Escapes (x.mapError f) ↔ ∃ e, x = .error e ∧ (f e).isSettingsFault = false := by
  cases x <;> simp [Escapes, Except.mapError]

theorem Found.bind {α β : Type} {x : Except LoadError α} {f : α → Except LoadError β} (hx : Found x)
    (hf : ∀ a, Found (f a)) : Found (x >>= f) := by
  intro missing h
  obtain h | ⟨a, -, h⟩ := bind_eq_error_iff.mp h
  · exact hx missing h
  · exact hf a missing h

theorem found_mapError {ε α : Type} {f : ε → LoadError} (hf : ∀ e missing, f e ≠ .notFound missing)
    (x : Except ε α) : Found (x.mapError f) := by
  intro missing h
  obtain ⟨e, -, he⟩ := mapError_eq_error_iff.mp h
  exact hf e missing he

theorem escapes_make_iff {origin : Option String} {members : List (String × Yaml.Value)} :
    Escapes ((l.make env members).mapError (.ofMake origin)) ↔ l.Breaks env members := by
  rw [escapes_mapError_iff, Loader.Breaks]
  constructor
  · rintro ⟨e, he, hfault⟩
    cases e with
    | invalid issues => cases hfault
    | broken cause => exact ⟨cause, he⟩
  · rintro ⟨cause, h⟩
    exact ⟨_, h, rfl⟩

theorem found_make (l : Loader) (env : Environment) (origin : Option String) (members : List (String × Yaml.Value)) :
    Found ((l.make env members).mapError (.ofMake origin)) :=
  found_mapError (fun e _ h => by cases e <;> cases h) _

theorem memberOf_eq_error_iff {entry : Yaml.Value × Yaml.Value} {e : LoadError} :
    memberOf entry = .error e ↔ e = .keyNotText ∧ ∀ name, entry.1 ≠ .text name := by
  rw [memberOf]
  cases entry.1 <;> simp [eq_comm]

/-- A mapping has no members exactly if one of its keys is no text. -/
theorem membersOf_mapping_eq_error_iff {path : String} {entries : List (Yaml.Value × Yaml.Value)} {e : LoadError} :
    membersOf path (.mapping entries) = .error e ↔
      e = .keyNotText ∧ ∃ entry ∈ entries, ∀ name, entry.1 ≠ .text name := by
  constructor
  · intro h
    obtain ⟨_, entry, _, rfl, -, hentry⟩ := mapM_eq_error_iff.mp h
    obtain ⟨he, hkey⟩ := memberOf_eq_error_iff.mp hentry
    exact ⟨he, entry, by simp, hkey⟩
  · rintro ⟨rfl, entry, hmem, hentry⟩
    have hfails : ∃ e, membersOf path (.mapping entries) = .error e :=
      exists_mapM_error_iff.mpr ⟨entry, hmem, _, memberOf_eq_error_iff.mpr ⟨rfl, hentry⟩⟩
    obtain ⟨e, h⟩ := hfails
    obtain ⟨_, other, _, -, -, hother⟩ := mapM_eq_error_iff.mp h
    rw [(memberOf_eq_error_iff.mp hother).1] at h
    exact h

/-- The members of a value escape if it is a mapping with a key that is no text. -/
theorem escapes_membersOf_iff {path : String} {value : Yaml.Value} :
    Escapes (membersOf path value) ↔
      ∃ entries, value = .mapping entries ∧ ∃ e ∈ entries, ∀ name, e.1 ≠ .text name := by
  cases value with
  | mapping entries =>
    constructor
    · rintro ⟨e, he, -⟩
      exact ⟨entries, rfl, (membersOf_mapping_eq_error_iff.mp he).2⟩
    · rintro ⟨_, ⟨⟩, hkey⟩
      exact ⟨_, membersOf_mapping_eq_error_iff.mpr ⟨rfl, hkey⟩, rfl⟩
  | null | bool | number | text | bytes | list | set | other =>
    constructor
    · rintro ⟨e, he, hfault⟩
      cases he <;> cases hfault
    · rintro ⟨entries, hmapping, -⟩
      cases hmapping

theorem found_membersOf (path : String) (value : Yaml.Value) : Found (membersOf path value) := by
  intro missing h
  cases value with
  | mapping entries => cases (membersOf_mapping_eq_error_iff.mp h).1
  | null | bool | number | text | bytes | list | set | other => cases h

theorem escapes_ofText_iff {path text : String} :
    Escapes (l.ofText path env text) ↔
      ∃ replaced, substitute env text = .ok replaced ∧ TextEscapes l path env replaced := by
  have hfault (fault : Yaml.Fault) : (LoadError.document path fault).isSettingsFault = false ↔ fault ≠ .ill := by
    cases fault <;> simp [LoadError.isSettingsFault]
  simp only [Loader.ofText, escapes_bind_iff, escapes_mapError_iff (f := .missingVariable),
    escapes_mapError_iff (f := .document path), escapes_membersOf_iff, escapes_make_iff, mapError_eq_ok_iff, hfault]
  constructor
  · rintro (⟨_, -, ⟨⟩⟩ | ⟨replaced, hreplaced, h⟩)
    refine ⟨replaced, hreplaced, ?_⟩
    obtain ⟨fault, hread, hnot⟩ | ⟨value, hread, ⟨entries, rfl, e, he, hkey⟩ | ⟨members, hmembers, hbreaks⟩⟩ := h
    · exact .document hread hnot
    · exact .key hread he hkey
    · exact .members hread hmembers hbreaks
  · rintro ⟨replaced, hreplaced, h⟩
    refine .inr ⟨replaced, hreplaced, ?_⟩
    obtain ⟨hread, hnot⟩ | ⟨hread, he, hkey⟩ | ⟨hread, hmembers, hbreaks⟩ := h
    · exact .inl ⟨_, hread, hnot⟩
    · exact .inr ⟨_, hread, .inl ⟨_, rfl, _, he, hkey⟩⟩
    · exact .inr ⟨_, hread, .inr ⟨_, hmembers, hbreaks⟩⟩

theorem found_ofText (l : Loader) (path : String) (env : Environment) (text : String) :
    Found (l.ofText path env text) :=
  (found_mapError (fun _ _ h => by cases h) _).bind fun _ =>
    (found_mapError (fun fault _ h => by cases h) _).bind fun value =>
      (found_membersOf path value).bind fun members => found_make l env (some path) members

section
variable {tree : Files.Tree} {path : Files.Path}

theorem load_of_absent (h : tree.present path = .ok false) : l.load tree env path = .error (.notFound path.text) := by
  rw [Loader.load, h]
  rfl

theorem load_of_unknown {e : Files.FileError} (h : tree.present path = .error e) :
    l.load tree env path = .error (.unopened e) := by
  rw [Loader.load, h]
  rfl

theorem load_of_present (h : tree.present path = .ok true) :
    l.load tree env path = (do
      let content ← (tree.openFile path).mapError .unopened
      let text ← (Utf8.decode content).mapError .notText
      l.ofText path.text env (String.ofList (Text.unifyLineEnds text))) := by
  rw [Loader.load, h]
  rfl

theorem load_eq_notFound_iff : l.load tree env path = .error (.notFound path.text) ↔ tree.present path = .ok false := by
  refine ⟨fun h => ?_, load_of_absent⟩
  cases hpresent : tree.present path with
  | error e =>
    rw [load_of_unknown hpresent] at h
    cases h
  | ok there =>
    cases there with
    | false => rfl
    | true =>
      rw [load_of_present hpresent] at h
      have hopen : Found ((tree.openFile path).mapError .unopened) := found_mapError (fun _ _ h => by cases h) _
      have hdecode (content : List UInt8) : Found ((Utf8.decode content).mapError .notText) :=
        found_mapError (fun _ _ h => by cases h) _
      exact absurd h ((hopen.bind fun content => (hdecode content).bind fun text => found_ofText l _ env _) path.text)

theorem present_of_openFile {content : List UInt8} (h : tree.openFile path = .ok content) :
    tree.present path = .ok true := by
  rw [Files.Tree.openFile] at h
  rw [Files.Tree.present]
  split at h
  · cases h
  · next hnul =>
    rw [if_neg hnul]
    cases hlookup : tree.lookup path with
    | ok entry => rfl
    | error fault =>
      rw [hlookup] at h
      cases h

/-- What keeps the system from telling whether there is a file keeps it from opening the file. -/
theorem openFile_of_unknown {e : Files.FileError} (h : tree.present path = .error e) :
    tree.openFile path = .error e := by
  rw [Files.Tree.present] at h
  rw [Files.Tree.openFile]
  split at h
  · cases h
  · next hnul =>
    rw [if_neg hnul]
    split at h <;> cases h
    next hlookup => rw [hlookup]

theorem load_of_unopened {e : Files.FileError} (hpresent : tree.present path ≠ .ok false)
    (hopen : tree.openFile path = .error e) : l.load tree env path = .error (.unopened e) := by
  cases h : tree.present path with
  | error e' =>
    cases (openFile_of_unknown h).symm.trans hopen
    exact load_of_unknown h
  | ok there =>
    cases there with
    | false => exact absurd h hpresent
    | true =>
      rw [load_of_present h, hopen]
      rfl

theorem load_of_openFile {content : List UInt8} {text : List Char} (hopen : tree.openFile path = .ok content)
    (hdecode : Utf8.decode content = .ok text) :
    l.load tree env path = l.ofText path.text env (String.ofList (Text.unifyLineEnds text)) := by
  rw [load_of_present (present_of_openFile hopen), hopen]
  change (Utf8.decode content).mapError LoadError.notText >>= _ = _
  rw [hdecode]
  rfl

end

/-- What makes settling settings break off: a variable that holds no JSON, or a regex that overflows. -/
inductive Unsettled [Text.CharNames] (env : Environment) (members : List (String × Raw)) : Prop
  | variable {s : String × Shape} : s ∈ Shape.settings → s.2.isComplex = true →
      Unreadable (lowered env) s.1 s.2 → Unsettled env members
  | regex {below : List (String × Raw)} : fromEnvironment env = .ok below →
      OverflowingMembers (Raw.overlayMembers (ownMembers members) below) → Unsettled env members

theorem runCheck_eq_regex_iff {α : Type} {check : Record → Check (Option α)} {members : List (String × Raw)}
    {e : Regex.CompileError} :
    runCheck check members = .error (.regex e) ↔ (check ⟨[], members⟩).run [] = .error e := by
  unfold runCheck
  split
  · next hrun => simp [hrun]
  · next hrun => simp [hrun]
  · next hrun => simp [hrun]

/-- A maker of settings breaks off at a check for a regex only. -/
theorem mapError_ofRefusal_eq_broken_iff {result : Except Refusal Settings} :
    (∃ cause, result.mapError MakeError.ofRefusal = .error (.broken cause)) ↔ ∃ e, result = .error (.regex e) := by
  constructor
  · rintro ⟨cause, h⟩
    obtain ⟨refusal, hresult, hcause⟩ := mapError_eq_error_iff.mp h
    cases refusal with
    | issues found => cases hcause
    | regex e => exact ⟨e, hresult⟩
  · rintro ⟨e, rfl⟩
    exact ⟨_, rfl⟩

theorem settle_eq_broken_iff [Text.CharNames] {members : List (String × Raw)} :
    (∃ cause, settle env members = .error (.broken cause)) ↔ Unsettled env members := by
  cases henv : fromEnvironment env with
  | error e =>
    have hsettle : settle env members = .error (.broken (.variable e)) := by
      rw [settle, henv]
      rfl
    obtain ⟨s, hs, hshape, hunread⟩ := exists_fromEnvironment_error_iff.mp ⟨e, henv⟩
    exact ⟨fun _ => .variable hs hshape hunread, fun _ => ⟨_, hsettle⟩⟩
  | ok below =>
    have hunsettled : Unsettled env members ↔
        OverflowingMembers (Raw.overlayMembers (ownMembers members) below) := by
      refine ⟨?_, .regex henv⟩
      rintro (⟨hs, hshape, hunread⟩ | ⟨hbelow, h⟩)
      · obtain ⟨e, he⟩ := exists_fromEnvironment_error_iff.mpr ⟨_, hs, hshape, hunread⟩
        cases henv.symm.trans he
      · cases henv.symm.trans hbelow
        exact h
    have hbreaks := breaks_checkSettings ⟨[], Raw.overlayMembers (ownMembers members) below⟩ []
    have hsettle : settle env members =
        (runCheck checkSettings (Raw.overlayMembers (ownMembers members) below)).mapError .ofRefusal := by
      rw [settle, henv]
      rfl
    rw [hunsettled, ← hbreaks, hsettle, mapError_ofRefusal_eq_broken_iff]
    simp only [runCheck_eq_regex_iff]

/-- A member is not a setting but a parameter of the loading, and given a value. -/
def IsParameter (m : String × Yaml.Value) : Prop :=
  m.1 = selfParameter ∨ sourceParameters.contains m.1 = true ∧ m.2 ≠ .null

theorem exists_settingMembers_error_iff {members : List (String × Yaml.Value)} :
    (∃ e, settingMembers members = .error e) ↔ ∃ m ∈ members, IsParameter m := by
  rw [settingMembers, exists_bind_error_iff, exists_mapM_error_iff]
  have hrest (found : List (Option (String × Raw))) :
      ¬ ∃ e : MakeError, (pure (found.filterMap id) : Except MakeError _) = .error e := nofun
  simp only [hrest, and_false, exists_false, or_false]
  refine exists_congr fun m => and_congr_right fun _ => ?_
  obtain ⟨name, value⟩ := m
  rw [IsParameter]
  dsimp only
  by_cases hself : name = selfParameter
  · simp [hself]
  · rw [if_neg (by simpa using hself)]
    cases hsource : sourceParameters.contains name with
    | false => simp [hself]
    | true => cases value <;> simp [hself]

theorem settingMembers_eq_error {members : List (String × Yaml.Value)} {e : MakeError}
    (h : settingMembers members = .error e) : ∃ cause, e = .broken cause := by
  rcases bind_eq_error_iff.mp h with h | ⟨found, -, h⟩
  · obtain ⟨_, m, _, -, -, hm⟩ := mapM_eq_error_iff.mp h
    obtain ⟨name, value⟩ := m
    dsimp only at hm
    split at hm
    · exact ⟨_, (Except.error.inj hm).symm⟩
    · split at hm
      · cases value <;> cases hm <;> exact ⟨_, rfl⟩
      · cases hm
  · cases h

/-- The standard loader breaks off at a parameter among the members, at a variable that holds no JSON, and at a regex
that overflows. -/
theorem Loader.breaks_standard_iff [Text.CharNames] {members : List (String × Yaml.Value)} :
    standard.Breaks env members ↔
      (∃ m ∈ members, IsParameter m) ∨ ∃ own, settingMembers members = .ok own ∧ Unsettled env own := by
  rw [Breaks, ← exists_settingMembers_error_iff]
  change (∃ cause, (settingMembers members >>= settle env) = .error (.broken cause)) ↔ _
  cases hown : settingMembers members with
  | error e =>
    obtain ⟨cause, rfl⟩ := settingMembers_eq_error hown
    exact ⟨fun _ => .inl ⟨_, rfl⟩, fun _ => ⟨cause, rfl⟩⟩
  | ok own =>
    change (∃ cause, settle env own = .error (.broken cause)) ↔ _
    rw [settle_eq_broken_iff]
    simp

/-- A path that leads to nothing is reported as not found, and no other. What the system has against a path, or
against opening it, escapes. A file with text escapes exactly as its text does after references to variables are
replaced, and without a file settings escape exactly if their making breaks off. All else are settings, or a fault of
the settings. -/
theorem loading_escapes_iff (l : Loader) (tree : Files.Tree) (env : Environment) (path : Files.Path) :
    (l.load tree env path = .error (.notFound path.text) ↔ tree.present path = .ok false) ∧
    (∀ e, tree.present path ≠ .ok false → tree.openFile path = .error e →
      l.load tree env path = .error (.unopened e)) ∧
    (∀ content text, tree.openFile path = .ok content → Utf8.decode content = .ok text →
      (Escapes (l.load tree env path) ↔
        ∃ replaced, substitute env (String.ofList (Text.unifyLineEnds text)) = .ok replaced ∧
          TextEscapes l path.text env replaced)) ∧
    (Escapes (l.ofEnvironment env) ↔ l.Breaks env []) := by
  refine ⟨load_eq_notFound_iff, fun e => load_of_unopened, fun content text hopen hdecode => ?_, escapes_make_iff⟩
  rw [load_of_openFile hopen hdecode]
  exact escapes_ofText_iff

/-- A document with a number as a key escapes, and so does a variable of the limits that holds no JSON, with an empty
document and without one. -/
theorem loading_escapes_bad_variable :
    let entries : List (Yaml.Value × Yaml.Value) := [(.number (.int 1), .number (.int 2))]
    let l : Loader := { Loader.standard with
      read := fun text => if text = "1: 2\n" then .ok (.mapping entries) else Yaml.load text }
    let tree := (Files.Tree.empty.insert ⟨"", ["c"]⟩ []).insert ⟨"", ["k"]⟩ "1: 2\n".toUTF8.toList
    let env : Environment := [("STACK_FOCUS_REPORT", "\x7bbad")]
    l.load tree env ⟨"", ["d"]⟩ = .error (.notFound "d") ∧
      l.load tree env ⟨"", []⟩ = .error (.unopened (.refused .directory ".")) ∧
      Escapes (l.load tree [] ⟨"", ["k"]⟩) ∧ Escapes (l.load tree env ⟨"", ["c"]⟩) ∧ Escapes (l.ofEnvironment env) := by
  intro entries l tree env
  have hown : (lowered env).get? (variablePrefix ++ "report") = some "\x7bbad" := by decide +kernel
  have hread : Json.read? "\x7bbad" = none := by
    have hnone : (Json.read? "\x7bbad").isNone = true := by decide +kernel
    simpa using hnone
  have hbreaks : Loader.standard.Breaks env [] :=
    Loader.breaks_standard_iff.mpr
      (.inr ⟨[], rfl, .variable (s := ("report", Shape.report)) (by simp [Shape.settings]) rfl (.own hown hread)⟩)
  have hempty : l.read "" = .ok .null := by rfl
  have hkeyed : l.read "1: 2\n" = .ok (.mapping entries) := by
    change (if "1: 2\n" = "1: 2\n" then .ok (.mapping entries) else Yaml.load "1: 2\n") = _
    rw [if_pos rfl]
  refine ⟨?_, ?_, ?_, ?_, (loading_escapes_iff l tree env ⟨"", ["c"]⟩).2.2.2.mpr hbreaks⟩
  · exact (loading_escapes_iff l tree env ⟨"", ["d"]⟩).1.mpr (by decide +kernel)
  · exact (loading_escapes_iff l tree env ⟨"", []⟩).2.1 _ (by decide +kernel) (by decide +kernel)
  · exact ((loading_escapes_iff l tree [] ⟨"", ["k"]⟩).2.2.1 "1: 2\n".toUTF8.toList "1: 2\n".toList (by decide +kernel)
      (by decide +kernel)).mpr ⟨"1: 2\n", by decide +kernel, .key hkeyed List.mem_cons_self nofun⟩
  · exact ((loading_escapes_iff l tree env ⟨"", ["c"]⟩).2.2.1 [] [] (by decide +kernel) rfl).mpr
      ⟨"", by decide +kernel, .members hempty rfl hbreaks⟩

end StackQuery.Settings
