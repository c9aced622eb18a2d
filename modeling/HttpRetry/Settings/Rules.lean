import HttpRetry.Fault.Basic
import HttpRetry.Settings.Field
import HttpRetry.Text.Case
import HttpRetry.Text.Encoding

/-!
# Rules for reading settings

Overrides whose names begin with an underscore are no settings: they say how the
sources are read.
-/

namespace HttpRetry.Settings

structure Rules where
  /-- What the names of settings begin with in the environment. -/
  start : Value
  caseSensitive : Bool
  /-- The path of an environment file, several paths, or nothing. -/
  envFiles : Value
  /-- The name of the encoding of environment files. -/
  encoding : Value
  /-- Whether an empty text counts as not given. -/
  ignoreEmpty : Bool
  /-- The text that stands for nothing. -/
  nullText : Option String
  /-- What stands between the name of a setting and that of a part of it. -/
  delimiter : Option String
  /-- How many parts of parts are told apart. -/
  partLimit : Value
  /-- A directory, or several, with a file for each setting. -/
  secretsDirectories : Value
  /-- The arguments of a command line, or nothing where there is none. -/
  arguments : Value
  /-- Whether a refused command line ends the program. -/
  exits : Bool

namespace Rules

def names : List String :=
  ["_case_sensitive", "_env_prefix", "_env_prefix_target", "_env_file", "_env_file_encoding",
    "_env_ignore_empty", "_env_nested_delimiter", "_env_nested_max_split", "_env_parse_none_str",
    "_env_parse_enums", "_nested_model_default_partial_update", "_secrets_dir", "_cli_prog_name",
    "_cli_parse_args", "_cli_settings_source", "_cli_parse_none_str", "_cli_hide_none_type",
    "_cli_avoid_json", "_cli_enforce_required", "_cli_use_class_docs_for_groups",
    "_cli_exit_on_error", "_cli_prefix", "_cli_flag_prefix_char", "_cli_implicit_flags",
    "_cli_ignore_unknown_args", "_cli_kebab_case", "_cli_shortcuts"]

/-- The rules that overrides give; a rule that is nothing is not given, but for the
environment files, of which there are then none. -/
def ofOverrides (overrides : List (String × Value)) : Rules :=
  let given (name : String) : Value := (overrides.lookup name).getD .null
  { start := if (given "_env_prefix").isNull then .text "HTTP_SDK_" else given "_env_prefix"
    caseSensitive := (given "_case_sensitive").isTrue
    envFiles := (overrides.lookup "_env_file").getD (.text ".env")
    encoding := given "_env_file_encoding"
    ignoreEmpty := (given "_env_ignore_empty").isTrue
    nullText := (given "_env_parse_none_str").text?
    delimiter := (given "_env_nested_delimiter").text?.filter (!·.isEmpty)
    partLimit := given "_env_nested_max_split"
    secretsDirectories := given "_secrets_dir"
    arguments := given "_cli_parse_args"
    exits := (given "_cli_exit_on_error").isNull || (given "_cli_exit_on_error").isTrue }

def fold (r : Rules) (name : String) : String :=
  if r.caseSensitive then name else lowerCase name

def check (r : Rules) : Except Fault Unit := do
  if r.partLimit.isTrue && r.partLimit.number?.isNone then
    .error (.notSubtractable r.partLimit.typeName)
  match r.start with
  | .text _ | .list _ | .map _ => return ()
  | v => .error (.noLength v.typeName)

def sourceName? (r : Rules) (f : Field) : Option String :=
  r.start.text?.map fun start => r.fold (start ++ f.name)

/-- Whether a name is that of a part of the status codes, the only setting that has parts. -/
def isPart (r : Rules) (name : String) : Bool :=
  match r.sourceName? .retryStatusCodes, r.delimiter with
  | some codes, some delimiter => (codes ++ delimiter).toList.isPrefixOf name.toList
  | _, _ => false

def fileEncoding (r : Rules) : Except Fault Encoding :=
  if !r.encoding.isTrue then .ok .utf8
  else
    match r.encoding with
    | .text name =>
      match Encoding.ofName? name with
      | some encoding => .ok encoding
      | none => .error (.unknownEncoding name)
    | v => .error (.notEncoding v.typeName)

end Rules

end HttpRetry.Settings
