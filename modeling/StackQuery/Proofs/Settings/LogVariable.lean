import StackQuery.Proofs.Traversal
import StackQuery.Settings.Standard

/-!
# Settings from the variable of the log

A setting that no variable is about is not given, and one whose own variable holds a record is that record. So the
variable of the log alone can ask for a log file, at any place; all other settings keep their defaults.
-/
namespace StackQuery.Settings

section
variable {vars : OrderedMap String String} {setting : String}

/-- No variable is about a member of a setting. -/
def NoMember (vars : OrderedMap String String) (setting : String) : Prop :=
  ∀ v ∈ vars.entries, (variablePrefix ++ setting ++ pathSeparator).toList.isPrefixOf v.1.toList = false

theorem membersFrom_eq_nil (h : NoMember vars setting) (shape : Shape) :
    membersFrom setting shape vars.entries = .ok [] := by
  unfold NoMember at h
  rw [membersFrom]
  dsimp only
  generalize vars.entries = entries at h
  induction entries with
  | nil => rfl
  | cons v rest ih =>
    obtain ⟨hv, hrest⟩ := List.forall_mem_cons.mp h
    rw [List.foldlM_cons, if_neg (by rw [hv]; exact Bool.false_ne_true)]
    exact ih hrest

theorem settingFrom_eq_none (shape : Shape) (hown : vars.get? (variablePrefix ++ setting) = none)
    (hmembers : NoMember vars setting) : settingFrom vars setting shape = .ok none := by
  rw [settingFrom, hown, membersFrom_eq_nil hmembers]
  cases shape.isComplex <;> rfl

/-- A setting whose own variable holds a record, and that no other variable is about, is that record. -/
theorem settingFrom_eq_record {text : String} {shape : Shape} {members : List (String × Raw)}
    (hshape : shape.isComplex = true) (hown : vars.get? (variablePrefix ++ setting) = some text)
    (hread : readJson setting text = .ok (.record members)) (hmembers : NoMember vars setting) :
    settingFrom vars setting shape = .ok (some (align shape (.record members))) := by
  rw [settingFrom, hown, hshape]
  change (readJson setting text >>= _) = _
  rw [hread]
  change (membersFrom setting shape vars.entries >>= _) = _
  rw [membersFrom_eq_nil hmembers]
  change Except.ok (some (align shape (.record (Raw.overlayMembers [] members)))) = _
  rw [Raw.overlayMembers]

end

section
variable {fields inner : List (String × Shape)} {name field : String}

theorem alignMembers_nil (done : List (String × Raw)) : alignMembers fields [] done = done := by
  rw [alignMembers]

theorem alignMembers_simple (h : (fields.find? fun f => f.1 == Text.lowercase name) = some (field, .simple))
    {value : Raw} {rest done : List (String × Raw)} :
    alignMembers fields ((name, value) :: rest) done = alignMembers fields rest (Raw.setMember field value done) := by
  rw [alignMembers.eq_def]
  dsimp only
  rw [h]

theorem alignMembers_record (h : (fields.find? fun f => f.1 == Text.lowercase name) = some (field, .record inner))
    {members rest done : List (String × Raw)} :
    alignMembers fields ((name, .record members) :: rest) done =
      alignMembers fields rest (Raw.setMember field (.record (alignMembers inner members [])) done) := by
  rw [alignMembers.eq_def]
  dsimp only
  rw [h]

end

theorem settle_of_runCheck [Text.CharNames] {env : Environment} {members below : List (String × Raw)} {s : Settings}
    (hbelow : fromEnvironment env = .ok below)
    (hcheck : runCheck checkSettings (Raw.overlayMembers (ownMembers members) below) = .ok s) :
    settle env members = .ok s := by
  exact bind_eq_ok_iff.mpr ⟨below, mapError_eq_ok_iff.mpr hbelow, mapError_eq_ok_iff.mpr hcheck⟩

def logVariable : String := "stack_focus_logging"

/-- The JSON of a log file at a place. -/
def isLogFile (place : String) : Option Json → Bool
  | some (.object [(file, .object [(enabled, .bool true), (path, .string p)])]) =>
    file == "file" && enabled == "enabled" && path == "path" && p == place
  | _ => false

/-- A log file at a place as a member of the settings of the log. -/
def logFileMember (place : String) : List (String × Raw) :=
  [("file", .record [("enabled", .bool true), ("path", .text place)])]

variable {text place : String}

theorem readJson_of_isLogFile (h : isLogFile place (Json.read? text) = true) :
    readJson "logging" text = .ok (.record (logFileMember place)) := by
  unfold isLogFile at h
  split at h
  · next file enabled path p hjson =>
    simp only [Bool.and_eq_true, beq_iff_eq] at h
    obtain ⟨⟨⟨rfl, rfl⟩, rfl⟩, rfl⟩ := h
    rw [readJson, hjson]
    rfl
  · cases h

theorem align_logFileMember (place : String) :
    align Shape.logging (.record (logFileMember place)) = .record (logFileMember place) := by
  have hfile : Text.lowercase "file" = "file" := by decide +kernel
  have henabled : Text.lowercase "enabled" = "enabled" := by decide +kernel
  have hpath : Text.lowercase "path" = "path" := by decide +kernel
  have hmembers : alignMembers [("enabled", .simple), ("path", .simple)]
      [("enabled", .bool true), ("path", .text place)] [] = [("enabled", .bool true), ("path", .text place)] := by
    rw [alignMembers_simple (by rw [henabled]; rfl), alignMembers_simple (by rw [hpath]; rfl), alignMembers_nil]
    rfl
  rw [Shape.logging, align, logFileMember, alignMembers_record (by rw [hfile]; rfl), hmembers, alignMembers_nil]
  rfl

theorem runCheck_logFileMember [Text.CharNames] (place : String) :
    runCheck checkSettings [("logging", .record (logFileMember place))] =
      .ok { default with logging := { Logging.default with file := ⟨true, .ofText place⟩ } } := rfl

/-- The variable of the log and no other. -/
def onlyLog (text : String) : OrderedMap String String := OrderedMap.ofList [(Text.lowercase logVariable, text)]

theorem entries_onlyLog (text : String) : (onlyLog text).entries = [(logVariable, text)] := by
  have hname : Text.lowercase logVariable = logVariable := by decide +kernel
  rw [onlyLog, hname]
  rfl

theorem get?_onlyLog (text name : String) :
    (onlyLog text).get? name = if logVariable = name then some text else none := by
  rw [OrderedMap.get?, entries_onlyLog]
  rfl

theorem noMember_onlyLog {setting : String}
    (h : (variablePrefix ++ setting ++ pathSeparator).toList.isPrefixOf logVariable.toList = false) (text : String) :
    NoMember (onlyLog text) setting := by
  rw [NoMember, entries_onlyLog, List.forall_mem_singleton]
  exact h

theorem settingFrom_onlyLog {setting : String} (shape : Shape) (hown : logVariable ≠ variablePrefix ++ setting)
    (h : (variablePrefix ++ setting ++ pathSeparator).toList.isPrefixOf logVariable.toList = false) (text : String) :
    settingFrom (onlyLog text) setting shape = .ok none :=
  settingFrom_eq_none shape (by rw [get?_onlyLog, if_neg hown]) (noMember_onlyLog h text)

theorem fromEnvironment_logFile (h : isLogFile place (Json.read? text) = true) :
    fromEnvironment [(logVariable, text)] = .ok [("logging", .record (logFileMember place))] := by
  have hthreshold : settingFrom (onlyLog text) "threshold" .simple = .ok none :=
    settingFrom_onlyLog _ (by decide +kernel) (by decide +kernel) text
  have hinnermostFirst : settingFrom (onlyLog text) "innermost_first" .simple = .ok none :=
    settingFrom_onlyLog _ (by decide +kernel) (by decide +kernel) text
  have hrename : settingFrom (onlyLog text) "rename" (.list .rule) = .ok none :=
    settingFrom_onlyLog _ (by decide +kernel) (by decide +kernel) text
  have hreport : settingFrom (onlyLog text) "report" .report = .ok none :=
    settingFrom_onlyLog _ (by decide +kernel) (by decide +kernel) text
  have hruntime : settingFrom (onlyLog text) "runtime" .runtime = .ok none :=
    settingFrom_onlyLog _ (by decide +kernel) (by decide +kernel) text
  have hlogging : settingFrom (onlyLog text) "logging" .logging = .ok (some (.record (logFileMember place))) := by
    have hown : logVariable = variablePrefix ++ "logging" := by decide +kernel
    rw [settingFrom_eq_record rfl (by rw [get?_onlyLog, if_pos hown]) (readJson_of_isLogFile h)
      (noMember_onlyLog (by decide +kernel) text), align_logFileMember]
  change ((Shape.settings.mapM fun x => settingFrom (onlyLog text) x.1 x.2 >>= fun found =>
    pure (found.map fun value => (x.1, value))) >>= fun found => pure (found.filterMap id)) = _
  simp only [Shape.settings, List.mapM_cons, List.mapM_nil, hthreshold, hinnermostFirst, hrename, hlogging, hreport,
    hruntime]
  rfl

theorem ofEnvironment_logFile [Text.CharNames] (h : isLogFile place (Json.read? text) = true) :
    Loader.standard.ofEnvironment [(logVariable, text)] =
      .ok { default with logging := { Logging.default with file := ⟨true, .ofText place⟩ } } := by
  have hsettle : settle [(logVariable, text)] [] = _ :=
    settle_of_runCheck (fromEnvironment_logFile h) (runCheck_logFileMember place)
  exact congrArg (Except.mapError (LoadError.ofMake none)) hsettle

end StackQuery.Settings
