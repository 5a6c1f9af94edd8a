import DeliveryDesk.Toml.Report
import DeliveryDesk.Toml.Scalar

/-!
# Keys and values of settings documents

A key has one or more parts with dots between them. A value is a string, an unquoted value, an
array or an inline table. Arrays may span lines and may hold comments; inline tables may not.
How deep values are nested, and how many parts a key has, is limited by `nestingLimit`.
-/

namespace DeliveryDesk.Toml

open Reader

/-- One more than the deepest nesting of arrays and inline tables, and one more than the
largest number of parts of a dotted key. -/
def nestingLimit : Nat := 80

/-- What is said beyond the limit. -/
def limitExceeded : String := "recursion limit exceeded"

/-! ## Blanks and line breaks -/

/-- Blanks, if there are any. -/
def blanks : Reader Unit := fun cs => .ok ((), skipBlanks cs)

/-- A line break. -/
def lineBreak : Reader Unit
  | '\n' :: rest => .ok ((), rest)
  | '\r' :: '\n' :: rest => .ok ((), rest)
  | cs => .error { rest := cs }

/-- Blanks, line breaks and comments. `comment` is set within a comment, which must end with its
line. -/
def gap (comment : Bool) : Reader Unit
  | [] => if comment then .error { rest := [] } else .ok ((), [])
  | '\n' :: rest => gap false rest
  | '\r' :: '\n' :: rest => gap false rest
  | '\r' :: rest => .error { rest }
  | c :: rest =>
    if comment then if isPlain c then gap true rest else .error { rest := c :: rest }
    else if isInlineBlank c then gap false rest
    else if c = '#' then gap true rest
    else .ok ((), c :: rest)

/-- What a reader reads, and where it stood. -/
def located {α : Type} (r : Reader α) : Reader (α × Extent) := do
  let start ← remaining
  let a ← r
  return (a, { start, stop := ← remaining })

/-- Items with separators between them. Nothing is an empty list of items. -/
def separated {α : Type} (separator : Char) (item : Reader α) : Reader (List α) := do
  match ← maybe item with
  | none => return []
  | some first => return first :: (← repeated (do char separator; item))

/-! ## Keys -/

/-- A key: the parts in front of the last one, the last one, and where the first one stands. -/
structure Key where
  path : List String
  last : String
  place : Extent
deriving DecidableEq, Repr

/-- One part of a key, without the blanks around it. -/
def keyName : Reader String := do
  match ← remaining with
  | '"' :: rest => set rest; String.ofList <$> basicText
  | '\x27' :: rest => set rest; String.ofList <$> literalText
  | _ =>
    let c ← one isBareChar
    return String.ofList (c :: (← many isBareChar))

/-- One part of a key, with the blanks around it. -/
def keyPart : Reader (String × Extent) := do
  blanks
  let part ← located keyName
  blanks
  return part

/-- A key. -/
def key : Reader Key :=
  checked (named "key" do
      let first ← keyPart
      return (first, ← repeated (do char '.'; keyPart)))
    fun ((first, place), more) =>
      let parts := first :: more.map Prod.fst
      if nestingLimit ≤ parts.length then .error limitExceeded
      else .ok { path := parts.dropLast, last := parts.getLast?.getD first, place }

/-- The sign between a key and its value. -/
def equalsSign : Reader Unit := expecting [setOff ".", setOff "="] (char '=')

/-! ## Values -/

/-- A reader where a string could have stood. -/
def ratherText (r : Reader Toml) : Reader Toml :=
  named "string" (expecting [setOff "\"", setOff "'"] r)

/-- A word for a value. -/
def word (text : String) (value : Toml) : Reader Toml := do
  chars text.toList
  return value

/-- A value without brackets that starts with a character. -/
def scalar (c : Char) : Reader Toml :=
  if c = '"' ∨ c = '\x27' then .string <$> text
  else if isSign c || c.isDigit then numberOrMoment
  else if c = '_' then expecting ["leading digit"] integerValue
  else if c = '.' then expecting ["leading digit"] floatValue
  else ratherText <|
    if c = 't' then surely (word "true" (.boolean true))
    else if c = 'f' then surely (word "false" (.boolean false))
    else if c = 'i' then infinite false
    else if c = 'n' then notANumber
    else stop

/-- A closing bracket. -/
def closing (label : String) (c : Char) : Reader Unit :=
  named label (expecting [setOff c.toString] (char c))

/-- The items of an array. A comma may stand behind the last one. -/
def arrayItems (value : Reader Toml) : Reader (List Toml) := do
  if (← remaining).head? == some ']' then return []
  let items ← separated ',' do
    gap false
    let item ← value
    gap false
    return item
  if !items.isEmpty then let _ ← maybe (char ',')
  gap false
  return items

/-- An array of values. -/
def arrayOf (value : Reader Toml) : Reader Toml := do
  char '['
  surely do
    let items ← arrayItems value
    closing "array" ']'
    return .array items

/-- A key of an inline table and its value. -/
def inlineEntry (value : Reader Toml) : Reader (Key × Toml) := do
  let k ← key
  surely do
    equalsSign
    blanks
    let v ← value
    blanks
    return (k, v)

/-- The entries of an inline table. -/
def inlineEntries (value : Reader Toml) : Reader Entries :=
  checked (do
      let pairs ← separated ',' (inlineEntry value)
      blanks
      return pairs)
    fun pairs =>
      (pairs.foldlM (fun entries (k, v) => insert .inlineTable none k.path k.last v entries) []
        : Except KeyClash Entries).mapError KeyClash.message

/-- An inline table of values. -/
def inlineTableOf (value : Reader Toml) : Reader Toml := do
  char '\x7b'
  surely do
    let entries ← inlineEntries value
    closing "inline table" '\x7d'
    return .table .inline entries

/-- A value, given how arrays and inline tables are read. -/
def valueWith (array inlineTable : Reader Toml) : Reader Toml := do
  match ← remaining with
  | [] => stop
  | '[' :: _ => array
  | '\x7b' :: _ => inlineTable
  | c :: _ => scalar c

/-- What cannot be read because it is nested too deep. -/
def tooDeep : Reader Toml := surely (checked (pure ()) fun _ => .error limitExceeded)

/-- A value in which arrays and inline tables are nested up to a depth. -/
def valueWithin : (depth : Nat) → Reader Toml
  | 0 => valueWith tooDeep tooDeep
  | depth + 1 => valueWith (arrayOf (valueWithin depth)) (inlineTableOf (valueWithin depth))

/-- A value. -/
def value : Reader Toml := valueWithin (nestingLimit - 1)

end DeliveryDesk.Toml
