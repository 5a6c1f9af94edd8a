/-!
# Readers

A `Reader` reads something at the start of the remaining characters, or stops. A stop keeps what
was left to read there, so that its place can be told, and notes on what was being read. Most
stops leave it to another reader to try the same place; a final stop does not.
-/

namespace DeliveryDesk.Toml

/-- What is to be said about a place where reading stopped. -/
structure Notes where
  /-- What was being read; the innermost name counts. -/
  label : Option String := none
  /-- What could have stood there. -/
  expected : List String := []
  /-- What is wrong with what stands there. -/
  cause : Option String := none
deriving DecidableEq, Repr

/-- A piece of a document as it is set off in messages. -/
def setOff (s : String) : String := "\x60" ++ s ++ "\x60"

/-- A place where reading stopped. -/
structure Stop where
  rest : List Char
  notes : Notes := {}
  final : Bool := false
deriving DecidableEq, Repr

/-- Reads at the start of the remaining characters, and leaves those behind. -/
abbrev Reader (α : Type) : Type := StateT (List Char) (Except Stop) α

namespace Reader

variable {α β : Type}

/-- Stops here. -/
def stop : Reader α := fun cs => .error { rest := cs }

/-- Changes the places where a reader stops. -/
def atStops (change : Stop → Stop) (r : Reader α) : Reader α := fun cs =>
  match r cs with
  | .ok result => .ok result
  | .error s => .error (change s)

/-- A reader whose stops are final. -/
def surely (r : Reader α) : Reader α := r.atStops fun s => { s with final := true }

/-- A reader whose stops tell what was being read. -/
def named (label : String) (r : Reader α) : Reader α := r.atStops fun s =>
  { s with notes := { s.notes with label := s.notes.label.orElse fun _ => some label } }

/-- A reader whose stops tell what could have stood there. -/
def expecting (expected : List String) (r : Reader α) : Reader α := r.atStops fun s =>
  { s with notes := { s.notes with expected := s.notes.expected ++ expected } }

/-- The first of two readers, or the second one where the first one stops. -/
def orTry (first second : Reader α) : Reader α := fun cs =>
  match first cs with
  | .ok result => .ok result
  | .error s => if s.final then .error s else second cs

/-- What a reader reads, if it reads anything. -/
def maybe (r : Reader α) : Reader (Option α) :=
  orTry (some <$> r) (pure none)

/-- A reader that comes to nothing where what it reads is refused; it stops at its start then. -/
def checked (r : Reader α) (check : α → Except String β) : Reader β := fun cs =>
  match r cs with
  | .error s => .error s
  | .ok (a, rest) =>
    match check a with
    | .ok b => .ok (b, rest)
    | .error cause => .error { rest := cs, notes := { cause := some cause } }

/-- What a reader reads again and again, a given number of times at most. -/
def times (r : Reader α) : (most : Nat) → Reader (List α)
  | 0 => pure []
  | most + 1 => do
    match ← maybe r with
    | none => return []
    | some a => return a :: (← times r most)

/-- What a reader reads again and again until it stops. It must take at least one character each
time, so that the number of characters left is a large enough bound. -/
def repeated (r : Reader α) : Reader (List α) := fun cs => times r cs.length cs

/-- What is left to read. -/
def remaining : Reader (List Char) := get

/-- One character of a kind. -/
def one (p : Char → Bool) : Reader Char
  | [] => .error { rest := [] }
  | c :: rest => if p c then .ok (c, rest) else .error { rest := c :: rest }

/-- One given character. -/
def char (c : Char) : Reader Unit := do let _ ← one (· == c)

/-- Given characters. -/
def chars (word : List Char) : Reader Unit := fun cs =>
  if word.isPrefixOf cs then .ok ((), cs.drop word.length) else .error { rest := cs }

/-- All characters of a kind from here on. -/
def many (p : Char → Bool) : Reader (List Char) := fun cs => .ok (cs.takeWhile p, cs.dropWhile p)

/-- A given number of characters of a kind. -/
def exactly (count : Nat) (p : Char → Bool) : Reader (List Char) := fun cs =>
  let front := cs.take count
  if front.length = count ∧ front.all p then .ok (front, cs.drop count)
  else .error { rest := cs }

end Reader

end DeliveryDesk.Toml
