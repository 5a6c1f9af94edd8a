import DeliveryDesk.Text.Blank

/-!
# Prompts

A prompt asks the operator to choose an item, to edit a line, to type a secret, or to confirm
something. Its answer is made of keys: `Prompt.take` finds the first keys that complete a
prompt, and the keys behind them wait for the next one. Keys that mean nothing to a prompt are
skipped.

A `Terminal` holds the keys that are still to come, in bursts. A prompt looks at the keys that
are waiting and at one more burst; if these do not complete it, the operator never answers.
-/

namespace DeliveryDesk.CommandLine

/-- A key. -/
inductive Key where
  | enter
  | tab
  | backspace
  | up
  | down
  | char (c : Char)
deriving DecidableEq, Repr

/-- The key that types a character. -/
def Key.typing (c : Char) : Key :=
  if c = '\n' ∨ c = '\r' then .enter
  else if c = '\t' then .tab
  else if c = '\x7f' then .backspace
  else .char c

/-- A question to the operator. -/
inductive Prompt where
  /-- Choose one of some items; the first one is marked. -/
  | choose (title : String) (items : List String)
  /-- Edit a line. An empty one is asked for again unless it is allowed. -/
  | line (title : String) (initial : String) (allowEmpty : Bool)
  /-- Type a line that is not shown. -/
  | secret (title : String)
  /-- Confirm something; no unless told otherwise. -/
  | confirm (title : String)
deriving DecidableEq, Repr

namespace Prompt

/-- What a prompt is answered with: the number of an item, a text, or a decision. -/
abbrev Answer : Prompt → Type
  | .choose _ _ => Nat
  | .line _ _ _ => String
  | .secret _ => String
  | .confirm _ => Bool

/-- Chooses an item with the mark at `mark`. Moving past either end goes on at the other. -/
def takeChoice (count mark : Nat) : List Key → Option (Nat × List Key)
  | [] => none
  | .enter :: rest => some (mark, rest)
  | .char ' ' :: rest => some (mark, rest)
  | .down :: rest => takeChoice count ((mark + 1) % count) rest
  | .tab :: rest => takeChoice count ((mark + 1) % count) rest
  | .char 'j' :: rest => takeChoice count ((mark + 1) % count) rest
  | .up :: rest => takeChoice count ((mark + count - 1) % count) rest
  | .char 'k' :: rest => takeChoice count ((mark + count - 1) % count) rest
  | _ :: rest => takeChoice count mark rest

/-- Edits a line that holds `text` so far. -/
def takeLine (initial : List Char) (allowEmpty : Bool) (text : List Char) :
    List Key → Option (String × List Key)
  | [] => none
  | .enter :: rest =>
    if text.isEmpty && !allowEmpty then takeLine initial allowEmpty initial rest
    else some (String.ofList text, rest)
  | .backspace :: rest => takeLine initial allowEmpty text.dropLast rest
  | .char c :: rest =>
    takeLine initial allowEmpty (if c.toNat < 0x20 then text else text ++ [c]) rest
  | _ :: rest => takeLine initial allowEmpty text rest

/-- What a key types where keys are not interpreted. -/
def plainKey : Key → List Char
  | .char c => [c]
  | .tab => ['\t']
  | .up => ['\x1b', '[', 'A']
  | .down => ['\x1b', '[', 'B']
  | _ => []

/-- Types a secret that is `text` so far. The keys behind it are dropped. -/
def takeSecret (text : List Char) : List Key → Option (String × List Key)
  | [] => none
  | .enter :: _ => some (String.ofList text, [])
  | .backspace :: rest => takeSecret text.dropLast rest
  | key :: rest => takeSecret (text ++ plainKey key) rest

/-- Confirms or declines. -/
def takeDecision : List Key → Option (Bool × List Key)
  | [] => none
  | .enter :: rest => some (false, rest)
  | .char c :: rest =>
    if c = 'y' ∨ c = 'Y' then some (true, rest)
    else if c = 'n' ∨ c = 'N' then some (false, rest)
    else takeDecision rest
  | _ :: rest => takeDecision rest

/-- The answer that the first keys give, and the keys behind them. -/
def take : (p : Prompt) → List Key → Option (p.Answer × List Key)
  | .choose _ items, keys => takeChoice items.length 0 keys
  | .line _ initial allowEmpty, keys => takeLine initial.toList allowEmpty initial.toList keys
  | .secret _, keys => takeSecret [] keys
  | .confirm _, keys => takeDecision keys

/-- Whether a prompt drops the keys that were typed before it. -/
def dropsWaiting : Prompt → Bool
  | .secret _ => true
  | _ => false

end Prompt

/-- The keys of an operator. -/
structure Terminal where
  /-- Keys that no prompt has taken yet. -/
  waiting : List Key := []
  bursts : List (List Key) := []
deriving Repr

namespace Terminal

/-- Answers a prompt, unless the operator never does. -/
def answer (t : Terminal) (p : Prompt) : Option (p.Answer × Terminal) :=
  let waiting := if p.dropsWaiting then [] else t.waiting
  match p.take waiting with
  | some (a, rest) => some (a, { t with waiting := rest })
  | none =>
    match t.bursts with
    | [] => none
    | burst :: bursts =>
      (p.take (waiting ++ burst)).map fun (a, rest) => (a, { waiting := rest, bursts })

end Terminal

end DeliveryDesk.CommandLine
