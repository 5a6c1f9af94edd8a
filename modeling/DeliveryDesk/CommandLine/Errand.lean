import DeliveryDesk.CommandLine.Run
import DeliveryDesk.Console.Basic
import DeliveryDesk.Settings.Basic
import DeliveryDesk.Yaml.Printing

/-!
# Errands and their reports

An `Errand` is a run that may fail. A failure is either still to be reported, with what led to
it, or the operator has already been told of it by a notification.

Results go to the standard output, as text or as one document; failures go to the error
stream, so that the output of a command stays readable for programs.
-/

namespace DeliveryDesk.CommandLine

open Text Console

/-- How an errand fails. -/
inductive Failure where
  /-- The operator has been told. -/
  | reported
  /-- What is to be reported, and what led to it, outermost first. -/
  | failed (message : String) (causes : List String)
deriving DecidableEq, Repr

/-- A run that may fail. -/
abbrev Errand (α : Type) : Type := ExceptT Failure Run α

namespace Errand

variable {α : Type}

/-- A run that does not fail. -/
def ofRun (r : Run α) : Errand α := ExceptT.lift r

/-- Prints a line. -/
def print (line : String) : Errand Unit := ofRun (.print line (.done ()))

/-- Prints a line on the error stream. -/
def warn (line : String) : Errand Unit := ofRun (.warn line (.done ()))

/-- Notes something in the log. -/
def note (record : LogRecord) : Errand Unit := ofRun (.log record (.done ()))

/-- Fails with a message. -/
def fail (message : String) (causes : List String) : Errand α :=
  throw (.failed message causes)

/-- What is said where there is no terminal. -/
def noTerminal : String := "not a terminal"

/-- Prompts the operator. -/
def prompt (p : Prompt) : Errand p.Answer := do
  match ← ofRun (.prompt p .done) with
  | some a => return a
  | none => fail ("IO error: " ++ noTerminal) [noTerminal]

/-- Fails with a message that tells what could not be done with a file, and why. -/
def ofFiles (message : String) (r : Except FileFault α) : Errand α :=
  match r with
  | .ok a => return a
  | .error fault => fail message [fault.message]

/-- Fails with a fault of the settings. -/
def ofSettings (r : Except SettingsFault α) : Errand α :=
  match r with
  | .ok a => return a
  | .error fault => fail fault.message fault.causes

end Errand

/-! ## Lines -/

/-- Pads a text on the right to a number of characters. -/
def padRight (width : Nat) (s : String) : String :=
  s ++ String.ofList (List.replicate (width - s.length) ' ')

namespace Errand

/-- Reports a success. -/
def success (v : Viewer) (message : String) : Errand Unit :=
  print (v.paint (.boldOf .green) "✓" ++ " " ++ message)

/-- Reports an error. -/
def complain (v : Viewer) (message : String) : Errand Unit :=
  warn (v.paint (.boldOf .red) "✗" ++ " " ++ v.paint (.of .red) message)

/-- The width of a label. -/
def labelWidth : Nat := 14

/-- Prints a labelled value. -/
def field (v : Viewer) (label value : String) : Errand Unit :=
  print ("  " ++ v.paint { bold := true } (padRight labelWidth (label ++ ":")) ++ " " ++ value)

/-- A text that stays in the background. -/
def faint (v : Viewer) (message : String) : String := v.paint { dimmed := true } message

/-- Prints a line that stays in the background. -/
def hint (v : Viewer) (message : String) : Errand Unit := print (faint v message)

/-- Prints a title below an empty line. -/
def heading (v : Viewer) (title : String) : Errand Unit := do
  print ""
  print (v.paint { bold := true, underline := true, colour := some .cyan } title)

/-- Reports notifications. Only readers of text are told of successes. -/
def notifications (v : Viewer) (format : OutputFormat) : List Notification → Errand Unit
  | [] => return
  | n :: rest => do
    if n.isError then complain v n.message
    else if format.isText then success v n.message
    notifications v format rest

end Errand

/-! ## Documents -/

/-- The document of a value. Text has none. -/
def documentOf? (format : OutputFormat) (value : Json) : Option String :=
  match format with
  | .text => none
  | .json => some value.pretty
  | .yaml => some (Yaml.document value)

/-! ## Console errands -/

namespace Errand

/-- Holds a conversation of the console. -/
def hold {α : Type} (client : Client) (c : Conversation α) : Errand α :=
  ofRun (Run.hold client true c)

/-- Reports what the console has to say, and fails unless the action succeeded. -/
def settle (v : Viewer) (format : OutputFormat) (c : Console) (succeeded : Bool) :
    Errand Console := do
  let (waiting, c) := c.takeNotifications
  notifications v format waiting
  if succeeded then return c else throw .reported

/-- What a fault of the client led from. -/
def faultCauses (fault : Fault) : List String :=
  fault.message ::
    match fault with
    | .url reason => [reason]
    | .transport reason => [reason]
    | _ => []

/-- The client for the settings. -/
def clientFor (settings : Settings) : Errand Client :=
  match Client.build settings.apiUrl none with
  | .ok client => return client
  | .error fault => fail ("Could not create a client for " ++ settings.apiUrl) (faultCauses fault)

end Errand

end DeliveryDesk.CommandLine
