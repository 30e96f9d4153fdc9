import StackQuery.Settings.Check
import StackQuery.Settings.Environment

/-!
# The standard loader

Members of a document are found by the names of settings without regard to case and laid over what the environment
gives. All of it is checked together. Members with the names of the parameters of the loading itself are not taken.
-/
namespace StackQuery.Settings

variable [Text.CharNames]

/-- The members of a document by the names of settings, found without regard to case; an exact name
counts before others. Members that nobody knows come last. -/
def ownMembers (members : List (String × Raw)) : List (String × Raw) :=
  let known := names.filterMap fun name =>
    match members.lookup name with
    | some value => some (name, value)
    | none => (members.find? fun m => Text.lowercase m.1 == name).map fun m => (name, m.2)
  known ++ members.filter fun m => !names.contains (Text.lowercase m.1)

def MakeError.ofRefusal : Refusal → MakeError
  | .issues found => .invalid found
  | .regex error => .broken (.regex error)

def settle (env : Environment) (members : List (String × Raw)) : Except MakeError Settings := do
  let below ← (fromEnvironment env).mapError fun e => .broken (.variable e)
  (runCheck checkSettings (Raw.overlayMembers (ownMembers members) below)).mapError .ofRefusal

def selfParameter : String := "__pydantic_self__"

/-- The parameters that change how settings are loaded, unless nothing is given for them. -/
def sourceParameters : List String :=
  ["_case_sensitive", "_nested_model_default_partial_update", "_env_prefix", "_env_file", "_env_file_encoding",
    "_env_ignore_empty", "_env_nested_delimiter", "_env_nested_max_split", "_env_parse_none_str", "_env_parse_enums",
    "_cli_prog_name", "_cli_parse_args", "_cli_settings_source", "_cli_parse_none_str", "_cli_hide_none_type",
    "_cli_avoid_json", "_cli_enforce_required", "_cli_use_class_docs_for_groups", "_cli_exit_on_error", "_cli_prefix",
    "_cli_flag_prefix_char", "_cli_implicit_flags", "_cli_ignore_unknown_args", "_cli_kebab_case", "_cli_shortcuts",
    "_secrets_dir"]

def settingMembers (members : List (String × Yaml.Value)) : Except MakeError (List (String × Raw)) := do
  let found ← members.mapM fun (name, value) =>
    if name == selfParameter then .error (.broken (.parameter name))
    else if sourceParameters.contains name then
      match value with
      | .null => .ok none
      | _ => .error (.broken (.parameter name))
    else .ok (some (name, Raw.ofYaml value))
  return found.filterMap id

/-- The loader that reads documents and checks settings as they are described here. -/
def Loader.standard : Loader where
  read := Yaml.load
  make env members := do settle env (← settingMembers members)

end StackQuery.Settings
