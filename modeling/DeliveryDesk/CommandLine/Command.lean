import DeliveryDesk.CommandLine.Environment
import DeliveryDesk.CommandLine.Grammar
import DeliveryDesk.CommandLine.LogFilter
import DeliveryDesk.Model.Subscription
import DeliveryDesk.Settings.Basic

/-!
# Commands

`Invocation.parse` turns the words of a command line into a command and the options that all
commands share. The service's address and the timeout may also come from the environment; an
option on the command line comes first.
-/

namespace DeliveryDesk.CommandLine

/-- The flags of a changed subscription; without any of them the operator is asked. -/
structure EditFlags where
  url : Option String := none
  secret : Option String := none
  eventTypes : Option String := none
  clearEventTypes : Bool := false
deriving DecidableEq, Repr

/-- What can be done with subscriptions. -/
inductive SubscriptionCommand where
  | list (page : Page)
  | view (id : String)
  | create (url secret eventTypes : Option String)
  | edit (id : String) (flags : EditFlags)
  | delete (id : String) (force : Bool)
deriving DecidableEq, Repr

/-- What a test delivery is made of. -/
structure SendOptions where
  subscriptionId : String
  payload : Option String := none
  file : Option String := none
  eventType : Option String := none
  inspect : Bool := false
deriving DecidableEq, Repr

/-- What can be done with the stored preferences. -/
inductive ConfigCommand where
  | list
  | get (key : String)
  | set (key value : String)
  | reset (force : Bool)
  | path
deriving DecidableEq, Repr

/-- The commands. -/
inductive Command where
  | subscription (command : SubscriptionCommand)
  | send (options : SendOptions)
  | delivery (taskId : String) (interactive : Bool)
  | logs (subscription : Option String) (limit : Option UInt32)
  | health
  | console
  | config (command : ConfigCommand)
  | completions (shell : String)
  | version (all : Bool)
deriving DecidableEq, Repr

/-- A command with what all commands share. -/
structure Invocation where
  overrides : Overrides
  logFilter : String
  verbose : Bool
  colours : Bool
  command : Command
deriving DecidableEq, Repr

/-! ## Values -/

/-- The number of 32 bits that is written, with a sign if one likes. -/
def word32? (s : String) : Option UInt32 :=
  let bounded (limit : Nat) (cs : List Char) : Option UInt32 :=
    (Text.readWhole limit cs).toOption.map UInt32.ofNat
  match s.toList with
  | '-' :: '+' :: _ => none
  | '-' :: rest => bounded 0 rest
  | cs => bounded (Nat.pow 2 32 - 1) cs

/-- The number of 64 bits that is written. -/
def word64? (s : String) : Option UInt64 :=
  (Text.readWhole maxWord64 s.toList).toOption.map UInt64.ofNat

/-- Whether a text is a number of 32 bits. -/
def isWord32 (s : String) : Bool := (word32? s).isSome

/-- Whether a text is a number of 64 bits. -/
def isWord64 (s : String) : Bool := (word64? s).isSome

/-- Whether a text can be a path. -/
def isPath (s : String) : Bool := !s.isEmpty

/-- The shells that there are completions for. -/
def shells : List String := ["bash", "elvish", "fish", "powershell", "zsh"]

/-! ## Grammars -/

/-- An option with a text for its value. -/
def textOption (long : String) (short : Char) : OptionSpec :=
  { long, short := some short, value := some anyText }

/-- An option without a value. -/
def switch (long : String) (short : Option Char) : OptionSpec := { long, short }

/-- The options that all commands share, and the commands. -/
def rootGrammar : Grammar where
  options := [
    textOption "api-url" 'a',
    { long := "format", short := some 'f', value := some fun s => (OutputFormat.named? s).isSome },
    { long := "timeout", value := some isWord64 },
    switch "verbose" (some 'v'),
    switch "no-color" none,
    { long := "log-level", value := some anyText },
    switch "json-logs" none,
    switch "version" (some 'V')]
  subcommands := ["subscription", "sub", "send", "delivery", "logs", "health", "console",
    "config", "completions", "version", "help"]

/-- What can be done with subscriptions. -/
def subscriptionGrammar : Grammar where
  subcommands := ["list", "show", "create", "edit", "delete", "help"]

/-- What can be done with the stored preferences. -/
def configGrammar : Grammar where
  subcommands := ["show", "set", "get", "reset", "path", "help"]

/-- The fields of a subscription. -/
def fieldOptions : List OptionSpec :=
  [textOption "url" 'u', textOption "secret" 's', textOption "event-types" 'e']

/-- A page of the subscription list. -/
def listGrammar : Grammar where
  options := [{ long := "skip", value := some isWord32 },
    { long := "limit", short := some 'l', value := some isWord32 }]

/-- A single identifier. -/
def idGrammar : Grammar where
  positionals := [anyText]

/-- The fields of a new subscription. -/
def createGrammar : Grammar where
  options := fieldOptions

/-- A subscription and its changed fields. -/
def editGrammar : Grammar where
  options := fieldOptions ++ [switch "clear-event-types" none]
  positionals := [anyText]

/-- An option that leaves out the confirmation. -/
def forceOption : OptionSpec := switch "force" (some 'f')

/-- A subscription to delete. -/
def deleteGrammar : Grammar where
  options := [forceOption]
  positionals := [anyText]

/-- A test delivery. -/
def sendGrammar : Grammar where
  options := [textOption "payload" 'p', { long := "file", value := some isPath },
    textOption "event-type" 'e', switch "inspect" (some 'i')]
  positionals := [anyText]

/-- A delivery task. -/
def deliveryGrammar : Grammar where
  options := [switch "interactive" (some 'i')]
  positionals := [anyText]

/-- A part of the delivery log. -/
def logsGrammar : Grammar where
  options := [textOption "subscription" 's',
    { long := "limit", short := some 'l', value := some isWord32 }]

/-- A preference and its value. -/
def setGrammar : Grammar where
  positionals := [anyText, anyText]

/-- Preferences to remove. -/
def resetGrammar : Grammar where
  options := [forceOption]

/-- A shell. -/
def completionsGrammar : Grammar where
  positionals := [shells.contains]

/-- How much of the version is shown. -/
def versionGrammar : Grammar where
  options := [switch "all" (some 'a')]

/-! ## Reading -/

/-- Refuses two options that exclude each other. -/
def exclude (first second : String) (m : Given) : Except Stop Unit :=
  if m.mentions first && m.mentions second then .error .usage else .ok ()

/-- Reads a request for help: the words name a command and maybe its subcommand. -/
def parseHelp (g : Grammar) : List String → Stop
  | [] => .help
  | name :: rest =>
    if !g.subcommands.contains name then .usage
    else
      match name with
      | "subscription" => parseHelp subscriptionGrammar rest
      | "sub" => parseHelp subscriptionGrammar rest
      | "config" => parseHelp configGrammar rest
      | _ => parseHelp {} rest

/-- Reads what is to be done with subscriptions. -/
def parseSubscription (name : String) (words : List String) :
    Except Stop SubscriptionCommand := do
  match name with
  | "list" =>
    let m ← listGrammar.scanAll words
    return .list {
      skip := ((m.value? "skip").bind word32?).getD 0
      limit := ((m.value? "limit").bind word32?).getD 100 }
  | "show" => return .view ((← idGrammar.scanAll words).positional 0)
  | "create" =>
    let m ← createGrammar.scanAll words
    return .create (m.value? "url") (m.value? "secret") (m.value? "event-types")
  | "edit" =>
    let m ← editGrammar.scanAll words
    exclude "event-types" "clear-event-types" m
    return .edit (m.positional 0) {
      url := m.value? "url"
      secret := m.value? "secret"
      eventTypes := m.value? "event-types"
      clearEventTypes := m.has "clear-event-types" }
  | "delete" =>
    let m ← deleteGrammar.scanAll words
    return .delete (m.positional 0) (m.has "force")
  | _ => .error (parseHelp subscriptionGrammar words)

/-- Reads what is to be done with the stored preferences. -/
def parseConfig (name : String) (words : List String) : Except Stop ConfigCommand := do
  match name with
  | "show" =>
    let _ ← Grammar.scanAll {} words
    return .list
  | "get" => return .get ((← idGrammar.scanAll words).positional 0)
  | "set" =>
    let m ← setGrammar.scanAll words
    return .set (m.positional 0) (m.positional 1)
  | "reset" => return .reset ((← resetGrammar.scanAll words).has "force")
  | "path" =>
    let _ ← Grammar.scanAll {} words
    return .path
  | _ => .error (parseHelp configGrammar words)

/-- Reads the subcommand of a command that only has subcommands. -/
def parseWithin {α : Type} (g : Grammar) (parse : String → List String → Except Stop α)
    (words : List String) : Except Stop α := do
  match ← g.scan none {} words with
  | (_, some (name, rest)) => parse name rest
  | (_, none) => .error .usage

/-- Reads a command. -/
def parseCommand (name : String) (words : List String) : Except Stop Command := do
  match name with
  | "subscription" => parseSubscriptions
  | "sub" => parseSubscriptions
  | "send" =>
    let m ← sendGrammar.scanAll words
    exclude "payload" "file" m
    return .send {
      subscriptionId := m.positional 0
      payload := m.value? "payload"
      file := m.value? "file"
      eventType := m.value? "event-type"
      inspect := m.has "inspect" }
  | "delivery" =>
    let m ← deliveryGrammar.scanAll words
    return .delivery (m.positional 0) (m.has "interactive")
  | "logs" =>
    let m ← logsGrammar.scanAll words
    return .logs (m.value? "subscription") ((m.value? "limit").bind word32?)
  | "health" =>
    let _ ← Grammar.scanAll {} words
    return .health
  | "console" =>
    let _ ← Grammar.scanAll {} words
    return .console
  | "config" => return .config (← parseWithin configGrammar parseConfig words)
  | "completions" => return .completions ((← completionsGrammar.scanAll words).positional 0)
  | "version" => return .version ((← versionGrammar.scanAll words).has "all")
  | _ => .error (parseHelp rootGrammar words)
where
  /-- Reads what is to be done with subscriptions. -/
  parseSubscriptions : Except Stop Command := do
    return .subscription (← parseWithin subscriptionGrammar parseSubscription words)

/-- The variable that names the service's address. -/
def apiUrlVariable : String := "HOOKDESK_API_URL"

/-- The variable that holds the timeout in seconds. -/
def timeoutVariable : String := "HOOKDESK_TIMEOUT"

/-- The timeout of an invocation, which must be a number wherever it comes from. -/
def timeoutOf (m : Given) (env : Environment) : Except Stop (Option UInt64) :=
  match (m.value? "timeout").orElse fun _ => env.lookup timeoutVariable with
  | none => .ok none
  | some text =>
    match word64? text with
    | some n => .ok (some n)
    | none => .error .usage

/-- The log filter of an invocation. -/
def logFilterOf (m : Given) (env : Environment) : String :=
  ((m.value? "log-level").orElse fun _ => env.lookup logLevelVariable).getD defaultLogFilter

/-- Reads a command line. -/
def Invocation.parse (env : Environment) (words : List String) : Except Stop Invocation := do
  match ← rootGrammar.scan none {} words with
  | (_, none) => .error .usage
  | (m, some (name, rest)) =>
    let command ← parseCommand name rest
    return {
      overrides := {
        apiUrl := (m.value? "api-url").orElse fun _ => env.lookup apiUrlVariable
        format := (m.value? "format").bind OutputFormat.named?
        timeoutSeconds := ← timeoutOf m env }
      logFilter := logFilterOf m env
      verbose := m.has "verbose"
      colours := !m.has "no-color"
      command }

end DeliveryDesk.CommandLine
