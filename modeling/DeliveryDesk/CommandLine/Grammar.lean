/-!
# Command line grammar

A command line is a list of words. An option has a long name behind two dashes and may have a
short one behind a single dash; its value follows behind an equals sign, as the next word, or,
for a short name, directly. Short names without values can share a dash. Two dashes alone end
the options. Every option is given at most once, and the words that are left over are the
positional values of the command, unless one of them names a subcommand, which takes the rest
of the line.

`Grammar.scan` reads the words of one command. It stops at the first word that does not fit,
or that asks for help.
-/

namespace DeliveryDesk.CommandLine

/-- An option of a command. -/
structure OptionSpec where
  long : String
  short : Option Char := none
  /-- Whether a value may be given, if the option takes one at all. -/
  value : Option (String → Bool) := none

namespace OptionSpec

/-- Whether the option takes a value. -/
def takesValue (o : OptionSpec) : Bool := o.value.isSome

/-- Whether a value may be given. -/
def accepts (o : OptionSpec) (value : String) : Bool := o.value.any (· value)

end OptionSpec

/-- A value that may be any text. -/
def anyText : String → Bool := fun _ => true

/-- What a command can be given. -/
structure Grammar where
  options : List OptionSpec := []
  /-- Which values each positional place takes. -/
  positionals : List (String → Bool) := []
  subcommands : List String := []

/-- Why reading stops early. -/
inductive Stop where
  /-- The line does not fit the grammar. -/
  | usage
  /-- The operator asks for help. -/
  | help
  /-- The operator asks for the version. -/
  | version
deriving DecidableEq, Repr

/-- What a command was given. -/
structure Given where
  values : List (String × String) := []
  switches : List String := []
  positionals : List String := []
deriving DecidableEq, Repr

namespace Given

/-- The value of an option. -/
def value? (g : Given) (name : String) : Option String := g.values.lookup name

/-- Whether an option without a value was given. -/
def has (g : Given) (name : String) : Bool := g.switches.contains name

/-- Whether an option was given at all. -/
def mentions (g : Given) (name : String) : Bool := (g.value? name).isSome || g.has name

/-- A positional value. -/
def positional (g : Given) (place : Nat) : String := g.positionals.getD place ""

end Given

namespace Grammar

/-- The option that asks for help. -/
def helpOption : OptionSpec := { long := "help", short := some 'h' }

/-- The option with a long name. -/
def longOption? (g : Grammar) (name : String) : Option OptionSpec :=
  (helpOption :: g.options).find? (·.long == name)

/-- The option with a short name. -/
def shortOption? (g : Grammar) (c : Char) : Option OptionSpec :=
  (helpOption :: g.options).find? (·.short == some c)

/-- Takes the value of an option. -/
def takeValue (o : OptionSpec) (value : String) (m : Given) : Except Stop Given :=
  if m.mentions o.long || !o.accepts value then .error .usage
  else .ok { m with values := (o.long, value) :: m.values }

/-- Takes an option without a value. -/
def takeSwitch (o : OptionSpec) (m : Given) : Except Stop Given :=
  if o.long == helpOption.long then .error .help
  else if o.long == "version" then .error .version
  else if m.mentions o.long then .error .usage
  else .ok { m with switches := o.long :: m.switches }

/-- Takes a positional value. -/
def takePositional (g : Grammar) (word : String) (m : Given) : Except Stop Given :=
  match g.positionals[m.positionals.length]? with
  | some accepts =>
    if accepts word then .ok { m with positionals := m.positionals ++ [word] } else .error .usage
  | none => .error .usage

/-- What is known behind a word: what was given so far, and the option whose value comes
next. -/
abbrev Step := Except Stop (Given × Option OptionSpec)

/-- Reads what follows the two dashes of a long name. -/
def takeLong (g : Grammar) (word : List Char) (m : Given) : Step :=
  let name := String.ofList (word.takeWhile (· != '='))
  match g.longOption? name, word.dropWhile (· != '=') with
  | none, _ => .error .usage
  | some o, [] =>
    if o.takesValue then .ok (m, some o) else (takeSwitch o m).map (·, none)
  | some o, _ :: value =>
    if o.takesValue then (takeValue o (String.ofList value) m).map (·, none)
    else .error .usage

/-- Reads what follows the dash of short names. -/
def takeShorts (g : Grammar) : List Char → Given → Step
  | [], m => .ok (m, none)
  | c :: rest, m =>
    match g.shortOption? c with
    | none => .error .usage
    | some o =>
      if o.takesValue then
        match rest with
        | [] => .ok (m, some o)
        | '=' :: value => (takeValue o (String.ofList value) m).map (·, none)
        | value => (takeValue o (String.ofList value) m).map (·, none)
      else
        match takeSwitch o m with
        | .error stop => .error stop
        | .ok m => takeShorts g rest m

/-- Reads one word that is no value, no subcommand and not the end of the options. -/
def takeWord (g : Grammar) (word : String) (m : Given) : Step :=
  match word.toList with
  | '-' :: '-' :: rest => takeLong g rest m
  | '-' :: c :: rest => takeShorts g (c :: rest) m
  | _ => (g.takePositional word m).map (·, none)

/-- Whether a word is an option rather than a value. -/
def isOptionWord (word : String) : Bool :=
  match word.toList with
  | '-' :: _ :: _ => true
  | _ => false

/-- Reads the words of a command. `pending` is the option whose value comes next. A subcommand
comes back with the words behind it. -/
def scan (g : Grammar) (pending : Option OptionSpec) (m : Given) :
    List String → Except Stop (Given × Option (String × List String))
  | [] => if pending.isSome then .error .usage else .ok (m, none)
  | word :: rest =>
    match pending with
    | some o =>
      if isOptionWord word then .error .usage
      else
        match takeValue o word m with
        | .error stop => .error stop
        | .ok m => scan g none m rest
    | none =>
      if g.subcommands.contains word then .ok (m, some (word, rest))
      else if word == "--" then
        (rest.foldlM (fun m word => g.takePositional word m) m).map (·, none)
      else
        match g.takeWord word m with
        | .error stop => .error stop
        | .ok (m, pending) => scan g pending m rest

/-- Reads the words of a command without subcommands. Every positional place must be taken. -/
def scanAll (g : Grammar) (words : List String) : Except Stop Given := do
  let (m, _) ← g.scan none {} words
  if m.positionals.length = g.positionals.length then return m else .error .usage

end Grammar

end DeliveryDesk.CommandLine
