import Mathlib.Data.List.DropRight
import Runbook.Arguments.Token
/-!
# Tokens that are written are read back

A token is written as its key, or as its key, an equals sign and its value between quotes. What
`tokenize` makes of such a text depends on how the value stands between the quotes. With its quotes
and backslashes escaped it is read back, whatever it holds (`readQuoted_escape`). As it stands it is
read back exactly when it holds no quote and no backslash: a quote ends it early, and a backslash is
dropped. `isPlain_of_readQuoted` says so; the number of backslashes that a reading would have to
have gained is what its induction carries.

Both writings are the same texts but for the value, so `Token.writeWith` is given the text of a
value. `tokenize_spaced_escape` and `tokenize_spaced_id_iff` are the two results for a list of
tokens, each with a space before it.
-/

set_option autoImplicit false

namespace Runbook.Arguments

open Runbook.Text

/-! ### Values between quotes -/

/-- A value with its quotes and backslashes escaped. -/
def escape (value : List Char) : List Char :=
  value.flatMap fun c ↦ if c = '"' ∨ c = '\\' then ['\\', c] else [c]

/-- A value that holds no quote and no backslash. -/
def IsPlain (value : List Char) : Prop := '"' ∉ value ∧ '\\' ∉ value

theorem IsPlain.cons {c : Char} {value : List Char} :
    IsPlain (c :: value) ↔ c ≠ '"' ∧ c ≠ '\\' ∧ IsPlain value := by
  simp only [IsPlain, List.mem_cons, not_or, ne_eq, eq_comm]
  exact ⟨fun h ↦ ⟨h.1.1, h.2.1, h.1.2, h.2.2⟩, fun h ↦ ⟨⟨h.1, h.2.2.1⟩, h.2.1, h.2.2.2⟩⟩

/-- A character that is neither a quote nor a backslash is read as it stands. -/
theorem readQuoted_cons {c : Char} (hquote : c ≠ '"') (hbackslash : c ≠ '\\') (text : List Char) :
    readQuoted (c :: text) = (readQuoted text).map fun (value, after) ↦ (c :: value, after) := by
  rw [readQuoted] <;> simp [hquote, hbackslash]

/-- After a backslash the next character is read as it stands. -/
theorem readQuoted_backslash (c : Char) (text : List Char) :
    readQuoted ('\\' :: c :: text) =
      (readQuoted text).map fun (value, after) ↦ (c :: value, after) := by
  rw [readQuoted]

theorem readQuoted_escape (value rest : List Char) :
    readQuoted (escape value ++ '"' :: rest) = some (value, rest) := by
  induction value with
  | nil => rfl
  | cons c value ih =>
    rw [escape, List.flatMap_cons, List.append_assoc, ← escape]
    by_cases hspecial : c = '"' ∨ c = '\\'
    · rw [if_pos hspecial, List.cons_append, List.singleton_append, readQuoted_backslash, ih]
      rfl
    · obtain ⟨hquote, hbackslash⟩ := not_or.1 hspecial
      rw [if_neg hspecial, List.singleton_append, readQuoted_cons hquote hbackslash, ih]
      rfl

theorem escape_of_isPlain {value : List Char} (h : IsPlain value) : escape value = value := by
  induction value with
  | nil => rfl
  | cons c value ih =>
    obtain ⟨hquote, hbackslash, hvalue⟩ := IsPlain.cons.1 h
    rw [escape, List.flatMap_cons, if_neg (not_or.2 ⟨hquote, hbackslash⟩), ← escape, ih hvalue]
    rfl

theorem replicate_append_cons (more : Nat) (c : Char) (text : List Char) :
    List.replicate more c ++ c :: text = c :: (List.replicate more c ++ text) := by
  rw [List.append_cons, ← List.replicate_succ', List.replicate_succ, List.cons_append]

/-- What is read after a first character starts with it. -/
theorem map_cons_eq_some {read : Option (List Char × List Char)} {c : Char}
    {value after : List Char}
    (h : (read.map fun (value, after) ↦ (c :: value, after)) = some (value, after)) :
    ∃ tail, value = c :: tail ∧ read = some (tail, after) := by
  obtain ⟨⟨tail, left⟩, hread, heq⟩ := Option.map_eq_some_iff.1 h
  obtain ⟨hvalue, rfl⟩ := Prod.mk.inj heq
  exact ⟨tail, hvalue.symm, hread⟩

/-- A value between quotes, as it stands, is read back only when it holds no quote and no
backslash; its closing quote is then the one after it. Nor is it read with more backslashes in
front of it. -/
theorem isPlain_of_readQuoted_replicate {value rest after : List Char} {more : Nat}
    (h : readQuoted (value ++ '"' :: rest) = some (List.replicate more '\\' ++ value, after)) :
    more = 0 ∧ IsPlain value ∧ after = rest := by
  cases value with
  | nil =>
    obtain ⟨hvalue, hafter⟩ := Prod.mk.inj (Option.some.inj h)
    rw [List.append_nil, eq_comm, List.replicate_eq_nil_iff] at hvalue
    exact ⟨hvalue, ⟨List.not_mem_nil, List.not_mem_nil⟩, hafter.symm⟩
  | cons c value =>
    by_cases hquote : c = '"'
    · -- The value ends right here.
      rw [hquote] at h
      have hnil : [] = List.replicate more '\\' ++ '"' :: value :=
        (Prod.mk.inj (Option.some.inj h)).1
      exact absurd hnil (by simp)
    by_cases hbackslash : c = '\\'
    · rw [hbackslash, replicate_append_cons] at h
      cases value with
      | nil =>
        -- The closing quote is taken as the escaped character.
        obtain ⟨tail, hvalue, -⟩ := map_cons_eq_some ((readQuoted_backslash '"' rest).symm.trans h)
        exact absurd (List.cons.inj hvalue).1 (by decide)
      | cons d value =>
        obtain ⟨tail, hvalue, hread⟩ := map_cons_eq_some ((readQuoted_backslash d _).symm.trans h)
        obtain ⟨rfl, rfl⟩ := List.cons.inj hvalue
        -- What is read next has one backslash more than what is left of the value.
        rw [replicate_append_cons, ← List.cons_append, ← List.replicate_succ] at hread
        exact absurd (isPlain_of_readQuoted_replicate hread).1 (Nat.succ_ne_zero more)
    · obtain ⟨tail, hvalue, hread⟩ :=
        map_cons_eq_some ((readQuoted_cons hquote hbackslash _).symm.trans h)
      cases more with
      | succ more => exact absurd (List.cons.inj hvalue).1.symm hbackslash
      | zero =>
        obtain ⟨-, rfl⟩ := List.cons.inj hvalue
        obtain ⟨hmore, hplain, hafter⟩ := @isPlain_of_readQuoted_replicate _ _ _ 0 hread
        exact ⟨hmore, IsPlain.cons.2 ⟨hquote, hbackslash, hplain⟩, hafter⟩
termination_by value.length

/-- A value between quotes, as it stands, is read back only when it holds no quote and no
backslash. -/
theorem isPlain_of_readQuoted {value rest after : List Char}
    (h : readQuoted (value ++ '"' :: rest) = some (value, after)) :
    IsPlain value ∧ after = rest :=
  (@isPlain_of_readQuoted_replicate value rest after 0 h).2

/-! ### Tokens -/

/-- A key that can be read: it is not empty, and each of its characters may stand in a key. -/
def IsKey (key : String) : Prop := key ≠ "" ∧ ∀ c ∈ key.toList, isKeyChar c = true

instance (key : String) : Decidable (IsKey key) :=
  decidable_of_iff (key ≠ "" ∧ key.toList.all isKeyChar = true)
    (and_congr_right fun _ ↦ List.all_eq_true)

/-- A token as it is written when values are put between quotes in some form. -/
def Token.writeWith (form : List Char → List Char) (token : Token) : List Char :=
  match token.value with
  | none => token.key.toList
  | some value => token.key.toList ++ '=' :: '"' :: (form value.toList ++ ['"'])

/-- A written token is one with an escaped value. -/
theorem Token.toList_write (token : Token) : token.write.toList = token.writeWith escape := by
  unfold Token.write Token.writeWith
  cases token.value with
  | none => rfl
  | some value => simp [quote, escape]

/-- A text that ends or goes on with a blank. -/
def EndsWord (text : List Char) : Prop := text.head?.all isBlank = true

theorem EndsWord.nil : EndsWord [] := rfl

theorem EndsWord.cons {c : Char} (h : isBlank c = true) (text : List Char) :
    EndsWord (c :: text) := h

/-- The first run of characters of a kind ends where another one follows. Assumes: the characters of
the run are of the kind, and the first after it is not. -/
theorem span_append {p : Char → Bool} {run rest : List Char} (hrun : ∀ c ∈ run, p c = true)
    (hrest : rest.head?.all (!p ·) = true) :
    (run ++ rest).takeWhile p = run ∧ (run ++ rest).dropWhile p = rest := by
  have hstops : rest.takeWhile p = [] ∧ rest.dropWhile p = rest := by
    cases rest with
    | nil => exact ⟨rfl, rfl⟩
    | cons c rest =>
      have hc : p c = false := by simpa using hrest
      simp [hc]
  rw [List.takeWhile_append_of_pos hrun, List.dropWhile_append_of_pos hrun, hstops.1, hstops.2,
    List.append_nil]
  exact ⟨rfl, rfl⟩

theorem isKeyChar_of_isBlank {c : Char} (h : isBlank c = true) : isKeyChar c = false := by
  rw [isKeyChar, h]
  rfl

theorem isEmpty_toList {key : String} (h : key ≠ "") : key.toList.isEmpty = false := by
  simpa using h

/-- A key starts with a character that is no blank. -/
theorem IsKey.exists_cons {key : String} (hkey : IsKey key) :
    ∃ c name, key.toList = c :: name ∧ isBlank c = false := by
  obtain ⟨c, name, hname⟩ := List.exists_cons_of_ne_nil
    (fun hnil : key.toList = [] ↦ hkey.1 (String.toList_eq_nil_iff.1 hnil))
  refine ⟨c, name, hname, Bool.eq_false_iff.2 fun hblank ↦ ?_⟩
  have hchar := hkey.2 c (hname ▸ List.mem_cons_self)
  rw [isKeyChar_of_isBlank hblank] at hchar
  cases hchar

/-- A bare key is read. Assumes: it can be read, and it is a word of its own. -/
theorem readToken_bare {key : String} (hkey : IsKey key) {rest : List Char}
    (hrest : EndsWord rest) : readToken (key.toList ++ rest) = .ok (⟨key, none⟩, rest) := by
  have hstop : rest.head?.all (!isKeyChar ·) = true := by
    cases rest with
    | nil => rfl
    | cons c rest => simpa using isKeyChar_of_isBlank hrest
  obtain ⟨htake, hdrop⟩ := span_append hkey.2 hstop
  have hne : ∀ after, rest ≠ '=' :: after := by
    rintro after rfl
    exact absurd (show isBlank '=' = true from hrest) (by decide)
  rw [readToken]
  simp only [htake, hdrop, isEmpty_toList hkey.1, Bool.false_eq_true, if_false]
  rw [String.ofList_toList]

/-- A key with an equals sign is read with the value that follows. -/
theorem readToken_value {key : String} (hkey : IsKey key) (text : List Char) :
    readToken (key.toList ++ '=' :: text) =
      (readValue key text).map fun (value, after) ↦ (⟨key, some value⟩, after) := by
  have hstop : ('=' :: text).head?.all (!isKeyChar ·) = true := rfl
  obtain ⟨htake, hdrop⟩ := span_append hkey.2 hstop
  rw [readToken]
  simp only [htake, hdrop, isEmpty_toList hkey.1, Bool.false_eq_true, if_false,
    String.ofList_toList]

/-- A token whose value stands between quotes in a form that is read back is read back. -/
theorem readToken_writeWith {form : List Char → List Char} {token : Token}
    (hkey : IsKey token.key)
    (hvalue : ∀ value ∈ token.value, ∀ rest,
      readQuoted (form value.toList ++ '"' :: rest) = some (value.toList, rest))
    {rest : List Char} (hrest : EndsWord rest) :
    readToken (token.writeWith form ++ rest) = .ok (token, rest) := by
  obtain ⟨key, value⟩ := token
  cases value with
  | none => exact readToken_bare hkey hrest
  | some value =>
    have hread := hvalue value rfl rest
    simp only [Token.writeWith, List.append_assoc, List.cons_append, List.nil_append]
    rw [readToken_value hkey, readValue, hread]
    simp only [if_pos (show rest.head?.all isBlank = true from hrest), String.ofList_toList]
    rfl

/-- A token that is read back from a text in which its value stands between quotes as it is has a
plain value, and what is left is what follows it. -/
theorem isPlain_of_readToken {token : Token} (hkey : IsKey token.key) {rest after : List Char}
    (hrest : EndsWord rest) (h : readToken (token.writeWith id ++ rest) = .ok (token, after)) :
    (∀ value ∈ token.value, IsPlain value.toList) ∧ after = rest := by
  obtain ⟨key, value⟩ := token
  cases value with
  | none =>
    rw [Token.writeWith, readToken_bare hkey hrest] at h
    exact ⟨nofun, (Prod.mk.inj (Except.ok.inj h)).2.symm⟩
  | some value =>
    simp only [Token.writeWith, List.append_assoc, List.cons_append, List.nil_append, id] at h
    rw [readToken_value hkey, readValue] at h
    cases hread : readQuoted (value.toList ++ '"' :: rest) with
    | none => simp [hread, Except.map] at h
    | some pair =>
      obtain ⟨found, left⟩ := pair
      simp only [hread] at h
      split at h
      · obtain ⟨htoken, rfl⟩ := Prod.mk.inj (Except.ok.inj h)
        obtain rfl := Option.some.inj (Token.mk.inj htoken).2
        rw [String.toList_ofList] at hread
        obtain ⟨hplain, hafter⟩ := isPlain_of_readQuoted hread
        refine ⟨fun value hvalue ↦ ?_, hafter⟩
        rw [← Option.some.inj hvalue, String.toList_ofList]
        exact hplain
      · cases h

/-! ### Lists of tokens -/

/-- Tokens that are written one after the other, each with a space before it. -/
def spaced (form : List Char → List Char) (tokens : List Token) : List Char :=
  tokens.flatMap fun token ↦ ' ' :: token.writeWith form

/-- Tokens as they are written, each with a space before it. -/
def written (tokens : List Token) : List Char :=
  tokens.flatMap fun token ↦ ' ' :: token.write.toList

theorem written_eq (tokens : List Token) : written tokens = spaced escape tokens := by
  simp only [written, spaced, Token.toList_write]

theorem spaced_cons (form : List Char → List Char) (token : Token) (tokens : List Token) :
    spaced form (token :: tokens) = ' ' :: (token.writeWith form ++ spaced form tokens) := by
  rw [spaced, List.flatMap_cons, List.cons_append, ← spaced]

theorem endsWord_spaced (form : List Char → List Char) (tokens : List Token) :
    EndsWord (spaced form tokens) := by
  cases tokens with
  | nil => exact EndsWord.nil
  | cons token tokens =>
    rw [spaced_cons]
    exact EndsWord.cons (by decide) _

/-- A text of blanks has no tokens, and any other starts with one. -/
theorem tokenize_eq (text : List Char) :
    tokenize text =
      if (dropBlanks text).isEmpty then .ok []
      else (readToken (dropBlanks text)).bind fun (token, after) ↦
        (tokenize after).map (token :: ·) := by
  rw [tokenize]
  split
  · rfl
  · split
    · next h => rw [h]; rfl
    · next h => rw [h]; rfl

theorem tokenize_nil : tokenize [] = .ok [] := by
  rw [tokenize_eq]
  rfl

/-- Blanks before a text do not matter to its tokens. -/
theorem tokenize_dropBlanks (text : List Char) : tokenize (dropBlanks text) = tokenize text := by
  have hidem : dropBlanks (dropBlanks text) = dropBlanks text := List.dropWhile_idempotent _ _
  rw [tokenize_eq, hidem, ← tokenize_eq]

/-- The first character of a token that is written is no blank. -/
theorem dropBlanks_writeWith (form : List Char → List Char) {token : Token}
    (hkey : IsKey token.key) (rest : List Char) :
    ∃ c text, token.writeWith form ++ rest = c :: text ∧
      dropBlanks (' ' :: (token.writeWith form ++ rest)) = token.writeWith form ++ rest := by
  obtain ⟨key, value⟩ := token
  obtain ⟨c, name, hname, hc⟩ := hkey.exists_cons
  obtain ⟨text, htext⟩ : ∃ text, Token.writeWith form ⟨key, value⟩ ++ rest = c :: text := by
    cases value with
    | none => exact ⟨name ++ rest, by rw [Token.writeWith, hname]; rfl⟩
    | some value => exact ⟨_, by rw [Token.writeWith, hname]; rfl⟩
  refine ⟨c, text, htext, ?_⟩
  rw [htext, dropBlanks, List.dropWhile_cons_of_pos (by decide),
    List.dropWhile_cons_of_neg (by rw [hc]; exact Bool.false_ne_true)]

/-- The tokens after a space, the first of them written in some form, are what is read there and
then the tokens of the rest. -/
theorem tokenize_spaced_cons (form : List Char → List Char) {token : Token}
    (hkey : IsKey token.key) (tokens : List Token) :
    tokenize (spaced form (token :: tokens)) =
      (readToken (token.writeWith form ++ spaced form tokens)).bind fun (token, after) ↦
        (tokenize after).map (token :: ·) := by
  obtain ⟨c, text, htext, hdrop⟩ := dropBlanks_writeWith form hkey (spaced form tokens)
  rw [spaced_cons, tokenize_eq, hdrop, if_neg]
  rw [htext]
  exact Bool.false_ne_true

/-- Tokens whose values stand between quotes in a form that is read back are read back. -/
theorem tokenize_spaced {form : List Char → List Char} {tokens : List Token}
    (hkeys : ∀ token ∈ tokens, IsKey token.key)
    (hvalues : ∀ token ∈ tokens, ∀ value ∈ token.value, ∀ rest,
      readQuoted (form value.toList ++ '"' :: rest) = some (value.toList, rest)) :
    tokenize (spaced form tokens) = .ok tokens := by
  induction tokens with
  | nil => exact tokenize_nil
  | cons token tokens ih =>
    rw [List.forall_mem_cons] at hkeys hvalues
    rw [tokenize_spaced_cons form hkeys.1,
      readToken_writeWith hkeys.1 hvalues.1 (endsWord_spaced form tokens)]
    change (tokenize (spaced form tokens)).map (token :: ·) = _
    rw [ih hkeys.2 hvalues.2]
    rfl

/-- Tokens that are written with escaped values are read back. -/
theorem tokenize_spaced_escape {tokens : List Token} (hkeys : ∀ token ∈ tokens, IsKey token.key) :
    tokenize (spaced escape tokens) = .ok tokens :=
  tokenize_spaced hkeys fun _ _ value _ rest ↦ readQuoted_escape value.toList rest

/-- Tokens whose values stand between quotes as they are are read back exactly when all values are
plain. -/
theorem tokenize_spaced_id_iff {tokens : List Token} (hkeys : ∀ token ∈ tokens, IsKey token.key) :
    tokenize (spaced id tokens) = .ok tokens ↔
      ∀ token ∈ tokens, ∀ value ∈ token.value, IsPlain value.toList := by
  constructor
  · intro h
    induction tokens with
    | nil => exact nofun
    | cons token tokens ih =>
      rw [List.forall_mem_cons] at hkeys ⊢
      rw [tokenize_spaced_cons id hkeys.1] at h
      cases hread : readToken (token.writeWith id ++ spaced id tokens) with
      | error e => rw [hread] at h; cases h
      | ok pair =>
        obtain ⟨found, after⟩ := pair
        rw [hread] at h
        cases hrest : tokenize after with
        | error e => simp [Except.bind, hrest, Except.map] at h
        | ok others =>
          simp only [Except.bind, hrest, Except.map, Except.ok.injEq, List.cons.injEq] at h
          obtain ⟨rfl, rfl⟩ := h
          obtain ⟨hplain, rfl⟩ := isPlain_of_readToken hkeys.1 (endsWord_spaced id _) hread
          exact ⟨hplain, ih hkeys.2 hrest⟩
  · intro h
    refine tokenize_spaced hkeys fun token htoken value hvalue rest ↦ ?_
    have hread := readQuoted_escape value.toList rest
    rwa [escape_of_isPlain (h token htoken value hvalue)] at hread

end Runbook.Arguments
