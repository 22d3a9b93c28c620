import Runbook.Text.Blank
/-!
# Argument tokens

The argument text of a block is a sequence of tokens between blanks. A token is a key, or a key,
an equals sign and a value. A value stands bare, up to the next blank, or between double quotes,
where a backslash takes the next character literally.

`tokenize` reads such a text. `Token.write` writes a token: a bare key, or a key with a quoted value
in which a quote and a backslash are escaped.

Scope. A quoted value that ends the text right after a backslash counts as closed there.
-/

set_option autoImplicit false

namespace Runbook.Arguments

open Runbook.Text

/-- A key with its value, if one is given. -/
structure Token where
  key : String
  value : Option String
deriving DecidableEq, Repr

/-- What is wrong with the form of an argument text. -/
inductive Malformed where
  /-- An equals sign stands where a key should. -/
  | missingKey
  /-- The quoted value of a key has no closing quote. -/
  | unterminated (key : String)
  /-- The closing quote of a value is not followed by a blank. -/
  | textAfterQuote (key : String)
deriving DecidableEq, Repr

/-- The wording of a malformed argument text. -/
def Malformed.message : Malformed → String
  | .missingKey => "`=` without a field name"
  | .unterminated key => "unterminated quote in value of `" ++ key ++ "`"
  | .textAfterQuote key => "unexpected text after quoted value of `" ++ key ++ "`"

/-! ### Reading -/

/-- Whether a character may stand in a key. -/
def isKeyChar (c : Char) : Bool := !isBlank c && c != '='

/-- The value that follows an opening quote and the text after it, `none` when the closing quote
is missing. -/
def readQuoted : List Char → Option (List Char × List Char)
  | [] => none
  | '"' :: rest => some ([], rest)
  | ['\\'] => some ([], [])
  | '\\' :: c :: rest => (readQuoted rest).map fun (value, after) => (c :: value, after)
  | c :: rest => (readQuoted rest).map fun (value, after) => (c :: value, after)

/-- The value after the equals sign of a key and the text after the value. -/
def readValue (key : String) : List Char → Except Malformed (String × List Char)
  | '"' :: text =>
    match readQuoted text with
    | none => .error (.unterminated key)
    | some (value, rest) =>
      if rest.head?.all isBlank then .ok (String.ofList value, rest)
      else .error (.textAfterQuote key)
  | text =>
    .ok (String.ofList (text.takeWhile fun c => !isBlank c), text.dropWhile fun c => !isBlank c)

/-- The token at the start of a text that starts with no blank, and the text after it. -/
def readToken (text : List Char) : Except Malformed (Token × List Char) :=
  let key := text.takeWhile isKeyChar
  if key.isEmpty then .error .missingKey
  else
    match text.dropWhile isKeyChar with
    | '=' :: rest =>
      (readValue (String.ofList key) rest).map fun (value, after) =>
        (⟨String.ofList key, some value⟩, after)
    | rest => .ok (⟨String.ofList key, none⟩, rest)

theorem length_dropWhile_le {α : Type} (p : α → Bool) (l : List α) :
    (l.dropWhile p).length ≤ l.length :=
  (List.dropWhile_sublist p).length_le

/-- A quoted value leaves no more text than it was read from. -/
theorem length_readQuoted_le {text value rest : List Char}
    (h : readQuoted text = some (value, rest)) : rest.length ≤ text.length := by
  fun_induction readQuoted text generalizing value with
  | case1 => simp at h
  | case2 => simp_all
  | case3 => simp_all
  | case4 _ tail ih =>
    obtain ⟨⟨_, _⟩, hv, heq⟩ := Option.map_eq_some_iff.1 h
    obtain ⟨-, rfl⟩ := Prod.mk.inj heq
    exact Nat.le_add_right_of_le (Nat.le_add_right_of_le (ih hv))
  | case5 _ tail _ _ _ ih =>
    obtain ⟨⟨_, _⟩, hv, heq⟩ := Option.map_eq_some_iff.1 h
    obtain ⟨-, rfl⟩ := Prod.mk.inj heq
    exact Nat.le_add_right_of_le (ih hv)

/-- A value leaves no more text than it was read from. -/
theorem length_readValue_le {key value : String} {text rest : List Char}
    (h : readValue key text = .ok (value, rest)) : rest.length ≤ text.length := by
  unfold readValue at h
  split at h
  · split at h
    · simp at h
    · rename_i hq
      split at h
      · obtain ⟨-, rfl⟩ := Prod.mk.inj (Except.ok.inj h)
        exact Nat.le_add_right_of_le (length_readQuoted_le hq)
      · simp at h
  · obtain ⟨-, rfl⟩ := Prod.mk.inj (Except.ok.inj h)
    exact length_dropWhile_le _ _

/-- A token leaves less text than it was read from. -/
theorem length_readToken_lt {token : Token} {text rest : List Char}
    (h : readToken text = .ok (token, rest)) : rest.length < text.length := by
  unfold readToken at h
  simp only at h
  split at h
  · simp at h
  · rename_i hkey
    have hsplit : text.takeWhile isKeyChar ++ text.dropWhile isKeyChar = text :=
      List.takeWhile_append_dropWhile
    have hlen : (text.dropWhile isKeyChar).length < text.length := by
      have hpos : 0 < (text.takeWhile isKeyChar).length := by
        rw [List.length_pos_iff]; simpa using hkey
      have := congrArg List.length hsplit
      simp only [List.length_append] at this
      omega
    split at h
    · rename_i after heq
      cases hv : readValue (String.ofList (text.takeWhile isKeyChar)) after with
      | error e => simp [hv, Except.map] at h
      | ok pair =>
        obtain ⟨value, left⟩ := pair
        simp only [hv, Except.map, Except.ok.injEq, Prod.mk.injEq] at h
        have := length_readValue_le hv
        rw [heq] at hlen
        simp only [List.length_cons] at hlen
        rw [← h.2]
        omega
    · simp only [Except.ok.injEq, Prod.mk.injEq] at h
      rw [← h.2]
      exact hlen

/-- The tokens of an argument text, in order. -/
def tokenize (text : List Char) : Except Malformed (List Token) :=
  if (dropBlanks text).isEmpty then .ok []
  else
    match _h : readToken (dropBlanks text) with
    | .error e => .error e
    | .ok (token, after) => (tokenize after).map (token :: ·)
termination_by text.length
decreasing_by exact Nat.lt_of_lt_of_le (length_readToken_lt _h) (length_dropWhile_le _ _)

/-! ### Writing -/

/-- A value between quotes, its quotes and backslashes escaped by a backslash. -/
def quote (value : String) : String :=
  let escaped := value.toList.flatMap fun c => if c = '"' ∨ c = '\\' then ['\\', c] else [c]
  String.ofList ('"' :: escaped ++ ['"'])

/-- A token as a bare key, or as a key with its quoted value. -/
def Token.write (token : Token) : String :=
  match token.value with
  | none => token.key
  | some value => token.key ++ "=" ++ quote value

end Runbook.Arguments
