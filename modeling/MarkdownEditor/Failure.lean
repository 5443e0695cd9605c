import MarkdownEditor.Json.Fault

/-!
# Failures

What can go wrong at the edges of the program: reading documents and settings,
and understanding arguments. Highlighting and formatting never fail.
-/

namespace MarkdownEditor

set_option autoImplicit false

inductive Failure where
  | io (cause : Text)
  | fileRead (path cause : Text)
  | configLoad (path cause : Text)
  | configSave (path cause : Text)
  | configParse (message : Text) (cause : Option Text)
  | configDirNotFound
  | invalidArgument (name message : Text)
deriving DecidableEq, Repr

namespace Failure

/-- A settings text that is no valid JSON. -/
def ofFault (source : Text) (f : Json.Fault) : Failure :=
  .configParse (f.describe source) (some (f.describe source))

def message : Failure → Text
  | .io cause => "I/O error: ".toList ++ cause
  | .fileRead path cause => "Failed to read '".toList ++ path ++ "': ".toList ++ cause
  | .configLoad path cause =>
    "Failed to load configuration from '".toList ++ path ++ "': ".toList ++ cause
  | .configSave path cause =>
    "Failed to save configuration to '".toList ++ path ++ "': ".toList ++ cause
  | .configParse message _ => "Invalid configuration format: ".toList ++ message
  | .configDirNotFound => "Configuration directory not found".toList
  | .invalidArgument name message =>
    "Invalid value for ".toList ++ name ++ ": ".toList ++ message

/-- What the failure was caused by, where something else failed before. -/
def cause : Failure → Option Text
  | .io cause => some cause
  | .fileRead _ cause => some cause
  | .configLoad _ cause => some cause
  | .configSave _ cause => some cause
  | .configParse _ cause => cause
  | .configDirNotFound => none
  | .invalidArgument _ _ => none

/-- The warning that is given where a failure is made up for by a default. -/
def defaultWarning (context : Text) (f : Failure) : Text :=
  context ++ ": ".toList ++ f.message ++ ". Using default.".toList

end Failure

/-- The value, or the default and a warning. -/
def orDefault {α : Type} (result : Except Failure α) (default : α) (context : Text) :
    α × List Text :=
  match result with
  | .ok value => (value, [])
  | .error f => (default, [f.defaultWarning context])

end MarkdownEditor
