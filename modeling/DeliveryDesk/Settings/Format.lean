import DeliveryDesk.Text.Blank

/-!
# Output formats

What a command prints is a table or labelled fields for people, or a document for programs.
-/

namespace DeliveryDesk

/-- How results are written. -/
inductive OutputFormat where
  | text
  | json
  | yaml
deriving DecidableEq, Repr, Inhabited

namespace OutputFormat

/-- The name of a format. -/
def name : OutputFormat → String
  | .text => "text"
  | .json => "json"
  | .yaml => "yaml"

/-- The formats by name; some have a second one. -/
def names : List (String × OutputFormat) :=
  [("text", .text), ("plain", .text), ("json", .json), ("yaml", .yaml), ("yml", .yaml)]

/-- Whether a format is for people. -/
def isText (f : OutputFormat) : Bool := f == .text

/-- The format with exactly the given name. -/
def named? (s : String) : Option OutputFormat := names.lookup s

/-- The format a text names, whatever the case of its ASCII letters and the blanks around
it. -/
def parse? (s : String) : Option OutputFormat := named? (Text.lowerAscii (Text.trim s))

/-- What is said about a text that names no format. -/
def unknownMessage (s : String) : String :=
  "Unknown format '" ++ s ++ "' (expected text, json or yaml)"

end OutputFormat

end DeliveryDesk
