import DeliveryDesk.CommandLine.Session
import DeliveryDesk.CommandLine.Stored

/-!
# The program

A command line is read, the settings are resolved, and the command is carried out. The exit
code tells whether it succeeded, failed, or was not understood. A failure that the operator
has not been told of is printed on the error stream, with what led to it if the operator wants
to know.
-/

namespace DeliveryDesk.CommandLine

open Text Console Errand

/-- The version of the program and of the library it is made of. -/
def versionNumber : String := "0.1.0"

/-- The name of the program. -/
def programName : String := "hookdesk"

/-- What the program says about its use. -/
def usageLine : String := "Usage: hookdesk [OPTIONS] <COMMAND>"

/-- The commands with what they are for. -/
def summaries : List (String × String) :=
  [("subscription", "Manage webhook subscriptions"),
    ("send", "Send a test webhook to a subscription"),
    ("delivery", "Show the status and attempt log of a delivery task"),
    ("logs", "Show delivery logs"),
    ("health", "Check service and dependency health"),
    ("console", "Start an interactive console session"),
    ("config", "Configuration management"),
    ("completions", "Generate shell completions"),
    ("version", "Display version information"),
    ("help", "Print this message")]

/-- The help text. -/
def helpText : String :=
  let lines := summaries.map fun (name, summary) => "  " ++ padRight labelWidth name ++ summary
  join "\n" ("hookdesk - operator console for webhook deliveries" :: "" :: usageLine :: "" ::
    "Commands:" :: lines)

/-- The version as a document. -/
def versionDocument (settings : Settings) : Json :=
  .object [("cli_version", .string versionNumber), ("sdk_version", .string versionNumber),
    ("api_url", .string settings.apiUrl)]

/-- Shows the version. -/
def version (v : Viewer) (settings : Settings) (all : Bool) : Errand Unit :=
  Subscriptions.printResult settings.format (versionDocument settings) do
    print (v.paint (.boldOf .cyan) programName ++ " " ++ v.paint (.of .green) versionNumber)
    if all then
      print ("  sdk     " ++ versionNumber)
      print ("  api     " ++ settings.apiUrl)

/-- Prints what makes a shell complete the names of the commands. -/
def completions (shell : String) : Errand Unit :=
  let names := join " " (summaries.map (·.1))
  print <|
    match shell with
    | "zsh" => "#compdef hookdesk\n_arguments '1:command:(" ++ names ++ ")'"
    | "fish" => "complete -c hookdesk -f -a '" ++ names ++ "'"
    | _ => "complete -W '" ++ names ++ "' hookdesk"

/-- What is logged of the settings. -/
def settingsResolved (settings : Settings) : LogRecord where
  level := .debug
  target := "hookdesk"
  message := "settings resolved"
  fields := [("api_url", .text settings.apiUrl), ("format", .text settings.format.name)]

/-- The settings of an invocation. -/
def settingsFor (env : Environment) (overrides : Overrides) : Errand Settings := do
  let path ← Stored.path env
  let p ← Stored.load path
  let settings ← ofSettings (p.resolve overrides)
  note (settingsResolved settings)
  return settings

/-- Carries out a command that needs settings. -/
def carryOut (v : Viewer) (settings : Settings) (rounds : Nat) : Command → Errand Unit
  | .subscription command => Subscriptions.run v settings command
  | .send options => Deliveries.send v settings options
  | .delivery taskId interactive => Deliveries.delivery v settings rounds taskId interactive
  | .logs subscription limit => Deliveries.logs v settings subscription limit
  | .health => Deliveries.health v settings
  | .console => Session.run v settings rounds
  | .version all => version v settings all
  | .config _ => return
  | .completions _ => return

/-- Carries out an invocation. Preferences and completions need no settings. -/
def execute (v : Viewer) (env : Environment) (rounds : Nat) (i : Invocation) : Errand Unit :=
  match i.command with
  | .config command => Stored.run v env command
  | .completions shell => completions shell
  | command => do
    let settings ← settingsFor env i.overrides
    carryOut v settings rounds command

/-- The exit code of success. -/
def success : UInt8 := 0

/-- The exit code of a failed command. -/
def failure : UInt8 := 1

/-- The exit code of a command line that is not understood. -/
def misuse : UInt8 := 2

/-- Prints a failure that the operator has not been told of. -/
def report (v : Viewer) (verbose : Bool) : Except Failure Unit → Run UInt8
  | .ok () => .done success
  | .error .reported => .done failure
  | .error (.failed message causes) =>
    let first := v.paint (.boldOf .red) "Error" ++ ": " ++ message
    let more := causes.map fun cause => v.paint (.of .yellow) "Caused by" ++ ": " ++ cause
    (first :: if verbose then more else []).foldr (fun line rest => .warn line rest)
      (.done failure)

/-- The run of a command line that stops early. -/
def stopped : Stop → Run UInt8
  | .usage => .warn usageLine (.done misuse)
  | .help => .print helpText (.done success)
  | .version => .print (programName ++ " " ++ versionNumber) (.done success)

/-- The log filter of an invocation, if there is one. -/
def logFilter? (env : Environment) (i : Invocation) : Option String :=
  ((env.lookup logFilterVariable).filter isLogFilter).or ((some i.logFilter).filter isLogFilter)

/-- Opens the log. Without a filter the operator is warned that nothing is logged. -/
def openLog (v : Viewer) (filter : Option String) (rest : Run UInt8) : Run UInt8 :=
  let opened := .openLog filter rest
  if filter.isSome then opened
  else .warn (v.paint (.of .yellow) "Warning" ++ ": Failed to create environment filter") opened

/-- The run of a command line in an environment. -/
def understood (v : Viewer) (env : Environment) (rounds : Nat) (words : List String) :
    Run UInt8 :=
  match Invocation.parse env words with
  | .error stop => stopped stop
  | .ok i =>
    let v := { v with colours := v.colours && i.colours }
    openLog v (logFilter? env i) ((execute v env rounds i).run.andThen (report v i.verbose))

/-- The file with variables that the environment lacks. -/
def environmentFile : String := ".env"

/-- The run of a command line. It ends with the exit code. -/
def program (v : Viewer) (env : Environment) (rounds : Nat) (words : List String) : Run UInt8 :=
  .readFile environmentFile fun
    | .error _ => understood v env rounds words
    | .ok file => understood v (env.extend file) rounds words

end DeliveryDesk.CommandLine
