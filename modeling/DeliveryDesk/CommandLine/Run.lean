import DeliveryDesk.Client.Basic
import DeliveryDesk.CommandLine.LogFilter
import DeliveryDesk.CommandLine.Prompt
import DeliveryDesk.Files.Tree

/-!
# Runs of a command

What a command does is a `Run`: it prints lines, warns on the error stream, calls the service,
prompts the operator, reads, writes and removes files, and notes in the log what it does, one step
after the other, and ends with a result. A step that works on files may fail. A run is plain data,
so what a command prints and which calls it makes can be read off it.

`Run.play` carries a run out in a `World`: the files, the terminal, everything printed so far,
the log, and a service that answers requests. It has no result if the operator never answers a
prompt. What a terminal shows only while the service is waited for, and then wipes away, is not
in it.

The log goes to the error stream too. The two are kept apart here: `World.errors` are the lines
that a command or the program writes there itself, and `Log.written` are the records that the log
filter lets through.
-/

namespace DeliveryDesk.CommandLine

/-- The steps of a command that ends with a result. -/
inductive Run (α : Type) : Type where
  | done (result : α)
  | print (line : String) (rest : Run α)
  | warn (line : String) (rest : Run α)
  | ask (client : Client) (call : Call) (next : call.Reply → Run α)
  /-- A prompt is answered, or there is no terminal. -/
  | prompt (p : Prompt) (next : Option p.Answer → Run α)
  | readFile (path : String) (next : Except FileFault String → Run α)
  /-- Makes the directories that a file lies in. -/
  | encloseFile (path : String) (next : Except FileFault Unit → Run α)
  | writeFile (path text : String) (next : Except FileFault Unit → Run α)
  | removeFile (path : String) (next : Except FileFault Unit → Run α)
  /-- Opens the log with a filter. Without one nothing is logged. -/
  | openLog (filter : Option String) (rest : Run α)
  | log (record : LogRecord) (rest : Run α)

namespace Run

variable {α β σ : Type}

/-- Goes on with the result of a run. -/
def andThen : Run α → (α → Run β) → Run β
  | .done a, f => f a
  | .print line rest, f => .print line (rest.andThen f)
  | .warn line rest, f => .warn line (rest.andThen f)
  | .ask c call next, f => .ask c call fun r => (next r).andThen f
  | .prompt p next, f => .prompt p fun a => (next a).andThen f
  | .readFile path next, f => .readFile path fun t => (next t).andThen f
  | .encloseFile path next, f => .encloseFile path fun r => (next r).andThen f
  | .writeFile path text next, f => .writeFile path text fun r => (next r).andThen f
  | .removeFile path next, f => .removeFile path fun r => (next r).andThen f
  | .openLog filter rest, f => .openLog filter (rest.andThen f)
  | .log record rest, f => .log record (rest.andThen f)

instance : Monad Run where
  pure := .done
  bind := andThen

/-- Holds a conversation with a client. What the conversation wants confirmed has been decided
before. -/
def hold (client : Client) (decision : Bool) : Conversation α → Run α
  | .done a => .done a
  | .ask call next => .ask client call fun r => hold client decision (next r)
  | .confirm _ next => hold client decision (next decision)
  | .log record rest => .log record (hold client decision rest)

end Run

/-- A log. -/
structure Log where
  /-- Whether a filter lets a record through. What a filter means that is more than a level, since
  it names targets or actions, is up to the library that writes the log. -/
  admits : String → LogRecord → Bool := isWithinLevel
  /-- The filter, if the log is open. -/
  filter : Option String := none
  /-- The records written so far. -/
  written : List LogRecord := []

namespace Log

/-- Whether the log takes a record. -/
def takes (l : Log) (record : LogRecord) : Bool := l.filter.any (l.admits · record)

/-- The log after some records, of which it writes those that it takes. -/
def add (l : Log) (records : List LogRecord) : Log :=
  { l with written := l.written ++ records.filter l.takes }

end Log

/-- What a run works on. -/
structure World (σ : Type) where
  service : σ
  files : FileTree := {}
  /-- The operator's keys, if there is a terminal. -/
  terminal : Option Terminal := none
  /-- The lines printed so far. -/
  output : List String := []
  /-- The lines of the error stream so far, apart from the log. -/
  errors : List String := []
  log : Log := {}

namespace World

variable {σ : Type}

/-- The world once its files have been worked on. Nothing changes if that failed. -/
def withFiles (w : World σ) : Except FileFault FileTree → Except FileFault Unit × World σ
  | .ok files => (.ok (), { w with files })
  | .error f => (.error f, w)

end World

namespace Run

variable {α σ : Type}

/-- Carries a run out. -/
def play (exchange : HttpRequest → σ → HttpOutcome × σ) :
    Run α → World σ → Option α × World σ
  | .done a, w => (some a, w)
  | .print line rest, w => play exchange rest { w with output := w.output ++ [line] }
  | .warn line rest, w => play exchange rest { w with errors := w.errors ++ [line] }
  | .ask client call next, w =>
    let (r, service) := client.perform exchange call w.service
    let log := w.log.add (client.records exchange w.service call)
    play exchange (next r) { w with service, log }
  | .prompt p next, w =>
    match w.terminal with
    | none => play exchange (next none) w
    | some t =>
      match t.answer p with
      | none => (none, w)
      | some (a, t) => play exchange (next (some a)) { w with terminal := some t }
  | .readFile path next, w => play exchange (next (w.files.read path)) w
  | .encloseFile path next, w =>
    let (r, w) := w.withFiles (w.files.encloseFile path)
    play exchange (next r) w
  | .writeFile path text next, w =>
    let (r, w) := w.withFiles (w.files.write path text)
    play exchange (next r) w
  | .removeFile path next, w =>
    let (r, w) := w.withFiles (w.files.remove path)
    play exchange (next r) w
  | .openLog filter rest, w => play exchange rest { w with log := { w.log with filter } }
  | .log record rest, w => play exchange rest { w with log := w.log.add [record] }

end Run

end DeliveryDesk.CommandLine
