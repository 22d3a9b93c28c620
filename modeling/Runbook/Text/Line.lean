/-!
# Lines

Cutting a text at its newlines. `splitAt` gives the pieces between separators, so a text always
has at least one piece, and `joinWith` puts them back together. `terminated` gives the lines with
their newlines, and `contentLines` the lines without them, where a carriage return before a
newline belongs to the line ending and a newline at the very end starts no further line.
-/

set_option autoImplicit false

namespace Runbook.Text

/-- The pieces of a text between the occurrences of a separator. -/
def splitAt (separator : Char) : List Char → List (List Char)
  | [] => [[]]
  | c :: rest =>
    if c = separator then [] :: splitAt separator rest
    else
      match splitAt separator rest with
      | [] => [[c]]
      | piece :: pieces => (c :: piece) :: pieces

/-- Pieces put together with a separator between neighbours. -/
def joinWith (separator : List Char) : List (List Char) → List Char
  | [] => []
  | [piece] => piece
  | piece :: rest => piece ++ separator ++ joinWith separator rest

/-- A text has at least one piece. -/
theorem splitAt_ne_nil (separator : Char) (text : List Char) : splitAt separator text ≠ [] := by
  cases text with
  | nil => simp [splitAt]
  | cons c rest =>
    rw [splitAt]
    split
    · simp
    · split <;> simp

/-- Cutting a text at a separator and joining the pieces gives the text back. -/
theorem joinWith_splitAt (separator : Char) (text : List Char) :
    joinWith [separator] (splitAt separator text) = text := by
  induction text with
  | nil => rfl
  | cons c rest ih =>
    rw [splitAt]
    split
    · rename_i hc
      cases h : splitAt separator rest with
      | nil => exact absurd h (splitAt_ne_nil separator rest)
      | cons piece pieces => rw [h] at ih; simp [joinWith, ih, hc]
    · split
      · rename_i h
        exact absurd h (splitAt_ne_nil separator rest)
      · rename_i piece pieces h
        rw [h] at ih
        rw [← ih]
        cases pieces <;> simp [joinWith]

/-- The lines of a text, each with its newline; only the last one may lack it. -/
def terminated : List Char → List (List Char)
  | [] => []
  | c :: rest =>
    if c = '\n' then [c] :: terminated rest
    else
      match terminated rest with
      | [] => [[c]]
      | line :: lines => (c :: line) :: lines

/-- The lines of a text with their newlines, put together, are the text. -/
theorem flatten_terminated (text : List Char) : (terminated text).flatten = text := by
  induction text with
  | nil => rfl
  | cons c rest ih =>
    rw [terminated]
    split
    · simp [ih]
    · split <;> simp_all

/-- A line without its newline and without a carriage return before that newline. -/
def withoutEnding (line : List Char) : List Char :=
  if line.getLast? = some '\n' then
    let content := line.dropLast
    if content.getLast? = some '\r' then content.dropLast else content
  else line

/-- The lines of a text without their endings. -/
def contentLines (text : List Char) : List (List Char) :=
  (terminated text).map withoutEnding

/-- The number of newlines in a text. -/
def newlineCount (text : List Char) : Nat := text.count '\n'

end Runbook.Text
