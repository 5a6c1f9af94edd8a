import DeliveryDesk.Json.Reading

/-!
# Decoding records

The service answers with records of named fields. A record is written as an object, in
which unknown names are ignored and a known one must not be repeated, or as an array that
holds the fields in their declared order, in which trailing fields may be missing but none
may be left over. `fields?` brings both forms to one list with a place for every declared
field; the combinators `required`, `optional` and `defaulted` then say what an absent field
means.

The same decoders run on two sources: on values (`Json`), and on texts as they are written
(`RawJson`), where an ignored member is never interpreted.
-/

namespace DeliveryDesk

/-- What a decoder sees of its source, one level deep. -/
inductive Shape (α : Type) where
  | null
  | bool (b : Bool)
  | number (n : JsonNumber)
  | string (s : String)
  | array (items : List α)
  | object (members : List (String × α))

/-- A source that records can be decoded from. -/
class RecordSource (α : Type) where
  /-- The outermost level, unless the source is malformed there. -/
  shape? : α → Option (Shape α)
  /-- The free-form value of a field of a record. -/
  field? : α → Option Json

open RecordSource (shape?)

instance : RecordSource Json where
  shape?
    | .null => some .null
    | .bool b => some (.bool b)
    | .number n => some (.number n)
    | .string s => some (.string s)
    | .array items => some (.array items)
    | .object members => some (.object members)
  field? j := some j

/-- The members of a written object with their names read. -/
def RawJson.named? : List (List StringPart × RawJson) → Option (List (String × RawJson))
  | [] => some []
  | (k, x) :: rest => do
    let key ← RawJson.textOf? k
    let named ← RawJson.named? rest
    return (key, x) :: named

instance : RecordSource RawJson where
  shape?
    | .null => some .null
    | .bool b => some (.bool b)
    | .number n => n.value?.map .number
    | .string parts => (RawJson.textOf? parts).map .string
    | .array items => some (.array items)
    | .object members => (RawJson.named? members).map .object
  field? x := x.toJson? (maxDepth - 1)

namespace Record

variable {α β : Type} [RecordSource α]

/-- A text. -/
def text (a : α) : Option String :=
  match shape? a with
  | some (.string s) => some s
  | _ => none

/-- An integer from zero up to below the bound. -/
def natBelow (bound : Nat) (a : α) : Option Nat :=
  match shape? a with
  | some (.number (.int i)) => if 0 ≤ i ∧ i.toNat < bound then some i.toNat else none
  | _ => none

/-- An unsigned 32-bit integer. -/
def word32 (a : α) : Option UInt32 := (natBelow (Nat.pow 2 32) a).map UInt32.ofNat

/-- An unsigned 16-bit integer. -/
def word16 (a : α) : Option UInt16 := (natBelow (Nat.pow 2 16) a).map UInt16.ofNat

/-- A list of anything that can be decoded. -/
def list (decode : α → Option β) (a : α) : Option (List β) :=
  match shape? a with
  | some (.array items) => items.mapM decode
  | _ => none

/-- Null, or anything that can be decoded. -/
def nullable (decode : α → Option β) (a : α) : Option (Option β) :=
  match shape? a with
  | some .null => some none
  | _ => (decode a).map some

/-- Any value; null counts as absent. -/
def freeForm (a : α) : Option (Option Json) :=
  match shape? a with
  | some .null => some none
  | _ => (RecordSource.field? a).map some

/-- A field that must be there. -/
def required (decode : α → Option β) (field : Option α) : Option β :=
  field.bind decode

/-- A field that may be missing or null. -/
def optional (decode : α → Option β) : Option α → Option (Option β)
  | none => some none
  | some a => nullable decode a

/-- A field with a value of its own when it is missing; null is no substitute. -/
def defaulted (value : β) (decode : α → Option β) : Option α → Option β
  | none => some value
  | some a => decode a

/-- The member with one of the given names; nothing at all if there are several. -/
def uniqueMember? (names : List String) (members : List (String × α)) : Option (Option α) :=
  match members.filter fun m => names.contains m.1 with
  | [] => some none
  | [m] => some (some m.2)
  | _ => none

/-- One place per declared field, filled from an array in declared order. -/
def positional? : (declared : List (List String)) → List α → Option (List (Option α))
  | [], [] => some []
  | [], _ :: _ => none
  | _ :: rest, [] => (positional? rest []).map (none :: ·)
  | _ :: rest, a :: as => (positional? rest as).map (some a :: ·)

/-- The fields of a record in declared order. Each is declared by the names it may have. -/
def fields? (declared : List (List String)) (a : α) : Option (List (Option α)) :=
  match shape? a with
  | some (.array items) => positional? declared items
  | some (.object members) => declared.mapM (uniqueMember? · members)
  | _ => none

end Record

namespace Json

/-- A member that is left out when there is nothing to write. -/
def memberIfAny {α : Type} (key : String) (f : α → Json) : Option α → List (String × Json)
  | none => []
  | some a => [(key, f a)]

end Json

end DeliveryDesk
