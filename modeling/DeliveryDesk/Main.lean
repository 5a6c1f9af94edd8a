import DeliveryDesk.CommandLine.Program

/-!
# The executable

Carries a run out on this machine: lines go to the standard streams and files are those of the
file system. There is no terminal to prompt at and no network behind the service's address, so
every prompt fails and every request stays without an answer. Log records go to the error stream,
without the time, and only filters that are a level are heeded.
-/

namespace DeliveryDesk.Main

open CommandLine

/-- No request is answered. -/
def unreachable (_ : HttpRequest) (s : Unit) : HttpOutcome × Unit := (.failed, s)

/-- The fault that a failure of the file system stands for. -/
def faultOf : IO.Error → FileFault
  | .noFileOrDirectory .. => .missing
  | .alreadyExists .. => .exists
  | .permissionDenied .. => .denied
  | .inappropriateType _ code _ =>
    if code.toNat = FileFault.isDirectory.number then .isDirectory else .notDirectory
  | _ => .nameTooLong

/-- Does some work on files, and tells why it failed if it did. -/
def attempt {α : Type} (work : IO α) : IO (Except FileFault α) := do
  try
    return .ok (← work)
  catch e => return .error (faultOf e)

/-- Makes the directories that a file lies in. -/
def encloseFile (path : String) : IO Unit :=
  match Files.enclosing path with
  | [] => return
  | directory :: _ => if directory.isEmpty then return else IO.FS.createDirAll directory

/-- The name of a level. -/
def levelName : LogLevel → String
  | .warn => "WARN"
  | .info => "INFO"
  | .debug => "DEBUG"

/-- The text of a field's value. -/
def valueText : LogValue → String
  | .text s => s
  | .number n => decimalText n
  | .optional none => "None"
  | .optional (some s) => "Some(" ++ s.quote ++ ")"

/-- The line of a log record. -/
def recordLine (record : LogRecord) : String :=
  Text.join " " (levelName record.level :: (record.target ++ ":") :: record.message ::
    record.fields.map fun (name, value) => name ++ "=" ++ valueText value)

/-- Writes the records that a log takes. -/
def writeLog (log : Log) (records : List LogRecord) : IO Unit :=
  (records.filter log.takes).forM fun record => IO.eprintln (recordLine record)

/-- Carries a run out. -/
def carryOut {α : Type} (log : Log) : Run α → IO α
  | .done a => return a
  | .print line rest => do
    IO.println line
    carryOut log rest
  | .warn line rest => do
    IO.eprintln line
    carryOut log rest
  | .ask client call next => do
    writeLog log (client.records unreachable () call)
    carryOut log (next (client.perform unreachable call ()).1)
  | .prompt _ next => carryOut log (next none)
  | .readFile path next => do carryOut log (next (← attempt (IO.FS.readFile path)))
  | .encloseFile path next => do carryOut log (next (← attempt (encloseFile path)))
  | .writeFile path text next => do carryOut log (next (← attempt (IO.FS.writeFile path text)))
  | .removeFile path next => do carryOut log (next (← attempt (IO.FS.removeFile path)))
  | .openLog filter rest => carryOut { log with filter } rest
  | .log record rest => do
    writeLog log [record]
    carryOut log rest

/-- The variables that matter. -/
def watchedVariables : List String :=
  [apiUrlVariable, timeoutVariable, logFilterVariable, logLevelVariable, Stored.fileVariable,
    "XDG_CONFIG_HOME", "HOME"]

/-- The values of the variables that are set. -/
def environment : IO Environment :=
  watchedVariables.filterMapM fun name => do return (← IO.getEnv name).map (name, ·)

end DeliveryDesk.Main

/-- Carries a command line out. -/
def main (words : List String) : IO UInt32 := do
  let env ← DeliveryDesk.Main.environment
  let code ← DeliveryDesk.Main.carryOut {} (DeliveryDesk.CommandLine.program {} env 0 words)
  return code.toUInt32
