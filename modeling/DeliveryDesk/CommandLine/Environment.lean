import DeliveryDesk.Unicode.Alphanumeric

/-!
# Environment files

Variables that the environment lacks may be set in a file, one per line: a name, an equals
sign and a value. A line may start with the word `export`; blanks at either end do not count,
and empty lines and lines that start with a number sign are skipped. In a value, apostrophes
quote everything, double quotes quote blanks, a backslash escapes a few characters, and a dollar
sign in front of a name, which may stand between braces, is replaced by the value of that
variable. The first malformed line ends the file.
-/

namespace DeliveryDesk.CommandLine

open Text

/-- The environment: variables and their values. -/
abbrev Environment := List (String × String)

namespace Environment

/-- Where a value is being read. -/
inductive ValueMode where
  | plain
  | strong
  | weak
  /-- Behind a backslash. -/
  | escaped (weak : Bool)
  /-- Within the name of a variable, maybe between braces. -/
  | name (weak braced : Bool) (name : List Char)
  /-- Behind the value. -/
  | ended

/-- Where plain characters are read, within double quotes or not. -/
def ValueMode.text (weak : Bool) : ValueMode := if weak then .weak else .plain

/-- The characters that a variable stands for. -/
def expand (env : Environment) (name : List Char) : List Char :=
  ((env.lookup (String.ofList name)).getD "").toList

/-- Reads a value, of which `out` is known so far. -/
def value? (env : Environment) (mode : ValueMode) (out : List Char) : List Char → Option String
  | [] =>
    match mode with
    | .strong => none
    | .weak => none
    | .escaped true => none
    | .name true _ _ => none
    | .name _ true _ => none
    | .name false false name => some (String.ofList (out ++ expand env name))
    | _ => some (String.ofList out)
  | c :: rest =>
    match mode with
    | .ended =>
      if c = ' ' ∨ c = '\t' then value? env .ended out rest
      else if c = '#' then some (String.ofList out)
      else none
    | .escaped weak =>
      if ['\\', '\x27', '"', '$', ' '].contains c then value? env (.text weak) (out ++ [c]) rest
      else if c = 'n' then value? env (.text weak) (out ++ ['\n']) rest
      else none
    | .strong =>
      if c = '\x27' then value? env .plain out rest else value? env .strong (out ++ [c]) rest
    | .name weak true name =>
      if c = '\x7d' then value? env (.text weak) (out ++ expand env name) rest
      else value? env (.name weak true (name ++ [c])) out rest
    | .name weak false name =>
      if Unicode.isAlphanumeric c then value? env (.name weak false (name ++ [c])) out rest
      else if c = '\x7b' ∧ name.isEmpty then value? env (.name weak true []) out rest
      else
        let out := out ++ expand env name
        if c = '$' then value? env (.name weak false []) out rest
        else value? env (.text weak) (out ++ [c]) rest
    | .weak =>
      if c = '$' then value? env (.name true false []) out rest
      else if c = '"' then value? env .plain out rest
      else if c = '\\' then value? env (.escaped true) out rest
      else value? env .weak (out ++ [c]) rest
    | .plain =>
      if c = '$' then value? env (.name false false []) out rest
      else if c = '\x27' then value? env .strong out rest
      else if c = '"' then value? env .weak out rest
      else if c = '\\' then value? env (.escaped false) out rest
      else if c = ' ' ∨ c = '\t' then value? env .ended out rest
      else value? env .plain (out ++ [c]) rest

/-- The name of a variable, and what follows it. -/
def name? (cs : List Char) : Option (String × List Char) :=
  let isNameChar (c : Char) := c.isAlphanum || c == '_' || c == '.'
  match cs with
  | c :: _ =>
    if c.isAlpha || c == '_' then
      some (String.ofList (cs.takeWhile isNameChar), trimStart (cs.dropWhile isNameChar))
    else none
  | [] => none

/-- What follows an equals sign. -/
def behindEquals? : List Char → Option (List Char)
  | '=' :: rest => some rest
  | _ => none

/-- The name on a line and the value behind its equals sign, still unread. -/
def assignment? (cs : List Char) : Option (String × List Char) := do
  let (name, rest) ← name? cs
  match name, behindEquals? rest with
  | _, some value => return (name, value)
  | "export", none =>
    let (name, rest) ← name? rest
    return (name, ← behindEquals? rest)
  | _, none => none

/-- Reads a line: nothing if it sets no variable. -/
def line? (env : Environment) (cs : List Char) : Option (Option (String × String)) :=
  match trimChars cs with
  | [] => some none
  | '#' :: _ => some none
  | cs => do
    let (name, value) ← assignment? cs
    match trimStart value with
    | [] => return some (name, "")
    | '#' :: _ => return some (name, "")
    | value => return some (name, ← value? env .plain [] value)

/-- Adds the variables that lines set to those that are known; a known one stays. -/
def extendLines (env : Environment) : List (List Char) → Environment
  | [] => env
  | line :: rest =>
    match line? env line with
    | none => env
    | some none => extendLines env rest
    | some (some (name, value)) =>
      extendLines (if (env.lookup name).isSome then env else env ++ [(name, value)]) rest

/-- Adds the variables that a file sets. -/
def extend (env : Environment) (file : String) : Environment :=
  extendLines env (splitAt '\n' file.toList)

end Environment

end DeliveryDesk.CommandLine
