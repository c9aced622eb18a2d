import HttpRetry.Text.Blank

/-!
# Environment files

Lines `NAME=value`, with `export` before the name, quotes around the value and
comments allowed. A line that is none of these is passed over. Values may refer
to other names as `$` and a name in braces.
-/

namespace HttpRetry.EnvFile

abbrev Binding := String × Option String

abbrev Reading (α : Type) : Type := Except (List Char) (α × List Char)

def isLineEnd (c : Char) : Bool :=
  c = '\n' || c = '\r'

def isInlineBlank (c : Char) : Bool :=
  isBlank c && !isLineEnd c

def unifyLineEnds : List Char → List Char
  | '\r' :: '\n' :: rest => '\n' :: unifyLineEnds rest
  | '\r' :: rest => '\n' :: unifyLineEnds rest
  | c :: rest => c :: unifyLineEnds rest
  | [] => []

/-! ## Quoted values -/

/-- Splits at the closing quote. A backslash takes the next character with it, so an
escaped quote does not close. -/
def splitQuoted (quote : Char) : List Char → Option (List Char × List Char)
  | [] => none
  | '\\' :: c :: rest =>
    (splitQuoted quote rest).map fun (body, after) => ('\\' :: c :: body, after)
  | c :: rest =>
    if c = quote then some ([], rest)
    else if c = '\\' then none
    else (splitQuoted quote rest).map fun (body, after) => (c :: body, after)

def escapeImage? (quote c : Char) : Option Char :=
  if c = '\\' ∨ c = '\'' then some c
  else if quote = '\'' then none
  else
    match c with
    | '"' => some '"'
    | 'a' => some '\x07'
    | 'b' => some '\x08'
    | 'f' => some '\x0c'
    | 'n' => some '\n'
    | 'r' => some '\r'
    | 't' => some '\t'
    | 'v' => some '\x0b'
    | _ => none

/-- Replaces escapes; a backslash before any other character stays. -/
def unescape (quote : Char) : List Char → List Char
  | '\\' :: c :: rest =>
    match escapeImage? quote c with
    | some image => image :: unescape quote rest
    | none => '\\' :: unescape quote (c :: rest)
  | c :: rest => c :: unescape quote rest
  | [] => []

/-! ## Lines -/

def cutComment : List Char → List Char
  | [] => []
  | c :: rest =>
    if isBlank c && ((c :: rest).dropWhile isBlank).head? = some '#' then []
    else c :: cutComment rest

/-- A value with the blanks before it. A comment may follow these at once. -/
def readValue (cs : List Char) : Reading String :=
  match cs.dropWhile isInlineBlank with
  | [] => .ok ("", [])
  | c :: rest =>
    if c = '\'' ∨ c = '"' then
      match splitQuoted c rest with
      | some (body, after) => .ok (String.ofList (unescape c body), after)
      | none => .error (c :: rest)
    else
      let (line, after) := cs.span (!isLineEnd ·)
      .ok (String.ofList (trimBy isBlank (cutComment line)), after)

def readName (cs : List Char) : Reading (Option String) :=
  match cs with
  | '#' :: _ => .ok (none, cs)
  | '\'' :: rest =>
    let (name, after) := rest.span (· ≠ '\'')
    if name.isEmpty || after.isEmpty then .error cs
    else .ok (some (String.ofList name), after.drop 1)
  | _ =>
    let (name, after) := cs.span fun c => c ≠ '=' && c ≠ '#' && !isBlank c
    if name.isEmpty then .error cs else .ok (some (String.ofList name), after)

def dropExport (cs : List Char) : List Char :=
  let word := "export".toList
  if word.isPrefixOf cs && (cs.drop word.length).head?.any isInlineBlank then
    (cs.drop word.length).dropWhile isInlineBlank
  else cs

def readLineEnd (cs : List Char) : Except (List Char) (List Char) :=
  let rest := match cs.dropWhile isInlineBlank with
    | '#' :: comment => comment.dropWhile (!isLineEnd ·)
    | _ => cs
  match rest.dropWhile isInlineBlank with
  | [] => .ok []
  | c :: after => if isLineEnd c then .ok after else .error rest

def readLine (cs : List Char) : Except (List Char) (Option Binding × List Char) := do
  match cs.dropWhile isBlank with
  | [] => .ok (none, [])
  | start =>
    let (name, rest) ← readName (dropExport start)
    let rest := rest.dropWhile isInlineBlank
    let (value, rest) ← match rest with
      | '=' :: after => do
        let (value, rest) ← readValue after
        .ok (some value, rest)
      | _ => .ok (none, rest)
    let rest ← readLineEnd rest
    .ok (name.map fun name => (name, value), rest)

/-- All bindings in order. Every line takes at least one character. -/
def readLines : Nat → List Char → List Binding
  | 0, _ | _, [] => []
  | fuel + 1, cs =>
    match readLine cs with
    | .ok (some binding, rest) => binding :: readLines fuel rest
    | .ok (none, rest) => readLines fuel rest
    | .error rest => readLines fuel ((rest.dropWhile (!isLineEnd ·)).drop 1)

def bindings (cs : List Char) : List Binding :=
  let cs := unifyLineEnds cs
  readLines cs.length cs

/-! ## References -/

/-- A reference after its opening brace: the name, the text to use where the name
is unknown, and what follows the closing brace. -/
def readReference? (cs : List Char) : Option (String × String × List Char) :=
  let (name, rest) := cs.span fun c => c ≠ '\x7d' && c ≠ ':'
  match rest with
  | '\x7d' :: after => some (String.ofList name, "", after)
  | ':' :: '-' :: rest =>
    match rest.span (· ≠ '\x7d') with
    | (fallback, _ :: after) => some (String.ofList name, String.ofList fallback, after)
    | _ => none
  | _ => none

def expand (meaning : String → Option (Option String)) : Nat → List Char → List Char
  | 0, cs => cs
  | _, [] => []
  | fuel + 1, c :: rest =>
    let reference := match c, rest with
      | '$', '\x7b' :: inner => readReference? inner
      | _, _ => none
    match reference with
    | some (name, fallback, after) =>
      let image := match meaning name with
        | some value => value.getD ""
        | none => fallback
      image.toList ++ expand meaning fuel after
    | none => c :: expand meaning fuel rest

def bind (name : String) (value : Option String) : List Binding → List Binding
  | [] => [(name, value)]
  | known :: rest =>
    if known.1 = name then (name, value) :: rest else known :: bind name value rest

/-- Each name's last value with references replaced, in the order of first
mention. A reference means the value given to the name before in the file, else
in the environment. -/
def resolve (environment : List (String × String)) (bindings : List Binding) : List Binding :=
  bindings.foldl (fun known (name, value) =>
    let meaning (n : String) : Option (Option String) :=
      match known.lookup n with
      | some value => some value
      | none => (environment.lookup n).map some
    let value := value.map fun v => String.ofList (expand meaning v.toList.length v.toList)
    bind name value known) []

def read (environment : List (String × String)) (cs : List Char) : List Binding :=
  resolve environment (bindings cs)

end HttpRetry.EnvFile
