/-!
# Blank characters, trimming and separated pieces

A character is blank when Unicode gives it the property `White_Space`. Operators
paste identifiers and addresses with stray blanks around them, so every form trims
its input with the functions of this module before it is looked at.

`splitAt` cuts a text at every occurrence of a separator; the pieces with the separator
between neighbours give the text back (`intercalate_splitAt`).
-/

namespace DeliveryDesk.Text

/-- The characters with the Unicode property `White_Space`. -/
def isBlank (c : Char) : Bool :=
  let n := c.toNat
  (0x09 ≤ n && n ≤ 0x0D) || n == 0x20 || n == 0x85 || n == 0xA0 || n == 0x1680 ||
    (0x2000 ≤ n && n ≤ 0x200A) || n == 0x2028 || n == 0x2029 || n == 0x202F ||
    n == 0x205F || n == 0x3000

/-- The characters without the blanks they start with. -/
def trimStart (cs : List Char) : List Char :=
  cs.dropWhile isBlank

/-- The characters without the blanks they end with. -/
def trimEnd : List Char → List Char
  | [] => []
  | c :: cs =>
    match trimEnd cs with
    | [] => if isBlank c then [] else [c]
    | rest => c :: rest

/-- The characters without the blanks at either end. -/
def trimChars (cs : List Char) : List Char :=
  trimEnd (trimStart cs)

/-- A text without the blanks at either end. -/
def trim (s : String) : String :=
  String.ofList (trimChars s.toList)

/-- A text is blank when nothing is left of it after trimming. -/
def isBlankText (s : String) : Bool :=
  (trimChars s.toList).isEmpty

/-- Cuts a list at every `sep`: `n` separators give `n + 1` pieces. -/
def splitAt (sep : Char) : List Char → List (List Char)
  | [] => [[]]
  | c :: cs =>
    match splitAt sep cs with
    | [] => [[c]]
    | piece :: pieces => if c = sep then [] :: piece :: pieces else (c :: piece) :: pieces

/-- Upper-case ASCII letters become lower case; every other character stays. -/
def lowerAscii (s : String) : String :=
  String.ofList (s.toList.map Char.toLower)

/-- The texts in order, with `sep` between neighbours. -/
def join (sep : String) (parts : List String) : String :=
  String.intercalate sep parts

/-- A text is blank exactly when trimming leaves the empty text. -/
theorem trim_eq_empty_iff {s : String} : trim s = "" ↔ isBlankText s = true := by
  rw [trim, isBlankText, List.isEmpty_iff, ← String.toList_eq_nil_iff, String.toList_ofList]

theorem trim_ne_empty_iff {s : String} : trim s ≠ "" ↔ isBlankText s = false := by
  rw [ne_eq, trim_eq_empty_iff, Bool.not_eq_true]

/-- A leading blank is trimmed. -/
theorem trimStart_cons_of_isBlank {c : Char} (h : isBlank c = true) (cs : List Char) :
    trimStart (c :: cs) = trimStart cs := by
  simp [trimStart, h]

/-- Trimming stops at the first character that is no blank. -/
theorem trimStart_cons_of_not_isBlank {c : Char} (h : isBlank c = false) (cs : List Char) :
    trimStart (c :: cs) = c :: cs := by
  simp [trimStart, h]

/-- What is left of the front starts with no blank. -/
theorem trimStart_eq_nil_or (cs : List Char) :
    trimStart cs = [] ∨ ∃ c rest, trimStart cs = c :: rest ∧ isBlank c = false := by
  induction cs with
  | nil => exact .inl rfl
  | cons c cs ih =>
    cases hc : isBlank c with
    | true => rwa [trimStart_cons_of_isBlank hc]
    | false => exact .inr ⟨c, cs, trimStart_cons_of_not_isBlank hc cs, hc⟩

/-- A character that is no blank is left at the front when the end is trimmed. -/
theorem trimEnd_cons_of_not_isBlank {c : Char} (h : isBlank c = false) (cs : List Char) :
    trimEnd (c :: cs) = c :: trimEnd cs := by
  rw [trimEnd]
  split
  · next hnil => simp [hnil, h]
  · rfl

/-- Nothing is left to trim at an end that was trimmed. -/
theorem trimEnd_trimEnd (cs : List Char) : trimEnd (trimEnd cs) = trimEnd cs := by
  induction cs with
  | nil => rfl
  | cons c cs ih =>
    rw [trimEnd]
    split
    · cases hc : isBlank c <;> simp [trimEnd, hc]
    · next hne =>
      rw [trimEnd, ih]
      split
      · next hnil => exact absurd hnil hne
      · rfl

/-- Trimming twice is trimming once. -/
theorem trim_trim (s : String) : trim (trim s) = trim s := by
  unfold trim
  rw [String.toList_ofList]
  refine congrArg String.ofList ?_
  unfold trimChars
  rcases trimStart_eq_nil_or s.toList with hnil | ⟨c, rest, hstart, hc⟩
  · rw [hnil]
    rfl
  · rw [hstart, trimEnd_cons_of_not_isBlank hc, trimStart_cons_of_not_isBlank hc,
      trimEnd_cons_of_not_isBlank hc, trimEnd_trimEnd]

/-- Cutting never gives an empty list of pieces. -/
theorem splitAt_ne_nil (sep : Char) (cs : List Char) : splitAt sep cs ≠ [] := by
  cases cs with
  | nil => simp [splitAt]
  | cons c cs =>
    simp only [splitAt]
    split
    · simp
    · split <;> simp

/-- The pieces with the separator between neighbours are the text again. -/
theorem intercalate_splitAt (sep : Char) (cs : List Char) :
    [sep].intercalate (splitAt sep cs) = cs := by
  induction cs with
  | nil => rfl
  | cons c cs ih =>
    simp only [splitAt]
    split
    · next h => exact absurd h (splitAt_ne_nil sep cs)
    · next piece pieces h =>
      rw [h] at ih
      by_cases hc : c = sep
      · subst hc
        rw [if_pos rfl]
        cases pieces <;> simp_all [List.intercalate]
      · rw [if_neg hc]
        cases pieces <;> simp_all [List.intercalate]

end DeliveryDesk.Text
