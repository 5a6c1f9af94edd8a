import DeliveryDesk.CommandLine.Errand
import DeliveryDesk.CommandLine.Command
import DeliveryDesk.Settings.Document

/-!
# Commands about the stored preferences

The preferences are stored in one file. An absent file stores none. These commands work on the
file alone and never call the service.
-/

namespace DeliveryDesk.CommandLine

open Text Console Errand

namespace Stored

/-- The variable that names the file. -/
def fileVariable : String := "HOOKDESK_CONFIG"

/-- The directory of the operator's settings. -/
def settingsDirectory? (env : Environment) : Option String :=
  match env.lookup "XDG_CONFIG_HOME" with
  | some d => if d.toList.head? == some '/' then some d else home
  | none => home
where
  /-- The directory below the operator's home. -/
  home : Option String := (env.lookup "HOME").map fun h => Files.below h ".config"

/-- The path of the file. -/
def path (env : Environment) : Errand String :=
  match env.lookup fileVariable, settingsDirectory? env with
  | some p, _ => return p
  | none, some d => return Files.below (Files.below d "hookdesk") "config.toml"
  | none, none => fail "Could not determine config directory" []

/-- Loads the preferences. Where there is no file, none is stored. -/
def load (path : String) : Errand Preferences := do
  match ← ofRun (.readFile path .done) with
  | .error fault =>
    if fault.isAbsence then return {} else fail ("Could not read " ++ path) [fault.message]
  | .ok text =>
    match Preferences.parse text with
    | .ok p => return p
    | .error report => fail ("Invalid configuration in " ++ path) [report]

/-- Goes on unless work on a file failed. -/
def unlessFailed (r : Except FileFault Unit) : Errand Unit :=
  match r with
  | .ok () => return
  | .error fault => fail fault.message []

/-- Stores the preferences, in directories that are made if need be. -/
def save (path : String) (p : Preferences) : Errand Unit := do
  unlessFailed (← ofRun (.encloseFile path .done))
  let text ← ofSettings p.document
  unlessFailed (← ofRun (.writeFile path text .done))

/-- Removes the file, and tells whether there was one. -/
def discard (path : String) : Errand Bool := do
  match ← ofRun (.removeFile path .done) with
  | .ok () => return true
  | .error .missing => return false
  | .error fault => fail ("Could not remove " ++ path) [fault.message]

/-- What stands for a value that is not set. -/
def notSet : String := "(not set)"

/-- Lists the preferences. -/
def list (v : Viewer) (path : String) : Errand Unit := do
  let p ← load path
  field v "File" path
  PreferenceKey.all.forM fun key => field v key.name ((p.value? key).getD (faint v notSet))

/-- Prints one preference. -/
def get (v : Viewer) (path key : String) : Errand Unit := do
  let p ← load path
  match ← ofSettings (p.get key) with
  | some value => print value
  | none => hint v notSet

/-- Changes one preference. -/
def set (v : Viewer) (path key value : String) : Errand Unit := do
  let p ← load path
  let p ← ofSettings (p.set key value)
  save path p
  let stored ← ofSettings (p.get key)
  success v (key ++ " = " ++ stored.getD "")

/-- Removes the file. The operator is asked to confirm it, unless told otherwise. -/
def reset (v : Viewer) (path : String) (force : Bool) : Errand Unit := do
  let confirmed ← if force then pure true else prompt (.confirm ("Remove " ++ path ++ "?"))
  if !confirmed then hint v "Cancelled."
  else if ← discard path then success v "Configuration reset to defaults"
  else hint v "No configuration file to reset"

/-- Carries out a command about the preferences. -/
def run (v : Viewer) (env : Environment) (command : ConfigCommand) : Errand Unit := do
  let path ← path env
  match command with
  | .list => list v path
  | .get key => get v path key
  | .set key value => set v path key value
  | .reset force => reset v path force
  | .path => print path

end Stored

end DeliveryDesk.CommandLine
