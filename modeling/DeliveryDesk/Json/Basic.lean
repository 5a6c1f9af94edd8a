import DeliveryDesk.Decimal.Binary64

/-!
# JSON values

The dynamic values that travel through the service: payloads, answers, and the documents
that the command line prints. The members of an object are kept in a list, because the
order in which a record is written is part of what is written. `Json.ofMembers` builds the
objects that reading gives: one member per name, in increasing order of the names, the last
of several members with one name.
-/

namespace DeliveryDesk

/-- A number: an integer, or a floating-point number that was written as such. -/
inductive JsonNumber where
  | int (i : Int)
  | float (x : Binary64)
deriving DecidableEq, Repr

/-- A JSON value. -/
inductive Json where
  | null
  | bool (b : Bool)
  | number (n : JsonNumber)
  | string (s : String)
  | array (items : List Json)
  | object (members : List (String × Json))
deriving Repr, BEq, Inhabited

namespace Json

/-- The integer `i` as a value. -/
def int (i : Int) : Json := .number (.int i)

/-- The natural number `n` as a value. -/
def nat (n : Nat) : Json := .number (.int n)

/-- A list of texts as a value. -/
def texts (ss : List String) : Json := .array (ss.map .string)

/-- A value that may be absent, written as null then. -/
def orNull {α : Type} (f : α → Json) : Option α → Json
  | none => .null
  | some a => f a

/-- The member of an object with the given name. -/
def member? (key : String) : Json → Option Json
  | .object members => members.lookup key
  | _ => none

/-- Only objects have members, and of two with one name the first counts. -/
theorem member?_eq_some_iff {key : String} {j v : Json} :
    j.member? key = some v ↔ ∃ members, j = .object members ∧ members.lookup key = some v := by
  cases j <;> simp [member?]

/-- The text of a string. -/
def text? : Json → Option String
  | .string s => some s
  | _ => none

/-- Puts a member into a list that is ordered by name, in place of one with its name. -/
def insertMember (key : String) (value : Json) :
    List (String × Json) → List (String × Json)
  | [] => [(key, value)]
  | (k, v) :: rest =>
    if key < k then (key, value) :: (k, v) :: rest
    else if key = k then (key, value) :: rest
    else (k, v) :: insertMember key value rest

/-- The object with the given members, ordered by name; a later member replaces an earlier
one of its name. -/
def ofMembers (members : List (String × Json)) : Json :=
  .object (members.foldl (fun acc m => insertMember m.1 m.2 acc) [])

end Json

end DeliveryDesk
