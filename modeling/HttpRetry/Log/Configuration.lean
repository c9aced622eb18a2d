import HttpRetry.Log.Notice
import HttpRetry.Settings.Basic

/-!
# Configuring the log

A level is named in any case and a record below it is dropped. Records are printed
as objects or, in every format but one, as lines of text.
-/

namespace HttpRetry.Log

def severities : List (String × Nat) := [
  ("CRITICAL", 50), ("FATAL", 50), ("ERROR", 40), ("WARN", 30), ("WARNING", 30), ("INFO", 20),
  ("DEBUG", 10), ("NOTSET", 0)]

/-- A name that stands for a layout of lines, not for a level. -/
def layoutName : String := "BASIC_FORMAT"

def layout : String := "%(levelname)s:%(name)s:%(message)s"

/-- A name that stands for the styles in which layouts are written. -/
def stylesName : String := "_STYLES"

def styles : List (String × String × String) := [
  ("%", "PercentStyle", layout),
  ("\x7b", "StrFormatStyle", "\x7blevelname\x7d:\x7bname\x7d:\x7bmessage\x7d"),
  ("$", "StringTemplateStyle", "$\x7blevelname\x7d:$\x7bname\x7d:$\x7bmessage\x7d")]

def stylesText : String :=
  let shown := styles.map fun (mark, name, layout) =>
    quoted mark ++ ": (<class 'logging." ++ name ++ "'>, " ++ quoted layout ++ ")"
  "\x7b" ++ ", ".intercalate shown ++ "\x7d"

structure Configuration where
  /-- The least severity that is printed. -/
  threshold : Nat
  format : Format

def severityOf (name : String) : Except Fault Nat :=
  let name := upperCase name
  if name = layoutName then .error (.unknownLevel (quoted layout))
  else if name = stylesName then .error (.notLevel stylesText)
  else
    match severities.lookup name with
    | some severity => .ok severity
    | none => .error (.missingKey (quoted (lowerCase ("Level " ++ name))))

namespace Configuration

def formatOf : Value → Format
  | .text name => (Format.ofName? name).getD .console
  | _ => .console

def ofValues (level format : Value) : Except Fault Configuration :=
  match level with
  | .text name => do return { threshold := ← severityOf name, format := formatOf format }
  | v => .error (.noAttribute v.typeName "upper")

def ofSettings (s : Settings) : Except Fault Configuration :=
  ofValues (.text s.logLevel.name) (.text s.logFormat.name)

def prints (c : Configuration) (r : Record) : Bool :=
  c.threshold ≤ r.level.severity

end Configuration

end HttpRetry.Log
