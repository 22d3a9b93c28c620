import Runbook.Proofs.Arguments.Writing
/-!
# The grammar of argument texts

An argument text is a list of tokens with blanks between them. `Quotes`, `WritesValue` and
`WritesToken` say how a value between quotes, a value and a token are written, and `Leads` that a
text begins with some tokens, each of which ends at a blank or with the text. A text is a list of
tokens when only blanks are left after them (`Lists`).

`tokenize` follows the tokens at the beginning of a text (`tokenize_of_leads`) up to what is none,
and that is one of five things (`Concludes`). Every text comes down to one of the five
(`exists_leads_concludes`), so what is read of a text is known from how it is written.
`tokenize_accepts` says of the texts that are accepted that they are the lists of tokens and, beside
them, the texts that break off in a value between quotes right after a backslash.

`tokenize_of_areWritten` is the way back: tokens that are written one after the other, with any
blanks between them, are read.
-/

set_option autoImplicit false

namespace Runbook.Arguments

open Runbook.Text

/-! ### How tokens are written -/

/-- A text of blanks, which can be empty. -/
def IsGap (text : List Char) : Prop := ∀ c ∈ text, isBlank c = true

instance (text : List Char) : Decidable (IsGap text) :=
  decidable_of_iff (text.all isBlank = true) List.all_eq_true

/-- A text without blanks, which can be empty. -/
def IsUnbroken (text : List Char) : Prop := ∀ c ∈ text, isBlank c = false

instance (text : List Char) : Decidable (IsUnbroken text) :=
  decidable_of_iff (text.all (!isBlank ·) = true) (by simp [IsUnbroken])

/-- A text stands between quotes for a value: a backslash takes the next character literally, and
no quote and no other backslash stands in it. -/
inductive Quotes : List Char → List Char → Prop where
  | nil : Quotes [] []
  | plain {c : Char} {text value : List Char} (hquote : c ≠ '"') (hbackslash : c ≠ '\\')
    (htext : Quotes text value) : Quotes (c :: text) (c :: value)
  | escaped (c : Char) {text value : List Char} (htext : Quotes text value) :
    Quotes ('\\' :: c :: text) (c :: value)

/-- A text after an equals sign is a value. -/
inductive WritesValue : String → List Char → Prop where
  | bare {text : List Char} (hblank : IsUnbroken text) (hquote : text.head? ≠ some '"') :
    WritesValue (String.ofList text) text
  | quoted {text value : List Char} (htext : Quotes text value) :
    WritesValue (String.ofList value) ('"' :: (text ++ ['"']))

/-- A text is a token. -/
inductive WritesToken : Token → List Char → Prop where
  | key {key : String} (hkey : IsKey key) : WritesToken ⟨key, none⟩ key.toList
  | value {key value : String} {text : List Char} (hkey : IsKey key)
    (hvalue : WritesValue value text) :
    WritesToken ⟨key, some value⟩ (key.toList ++ '=' :: text)

/-- A text begins with tokens and something is left after them. Each token can have blanks before
it, and it ends at a blank or with the text. -/
inductive Leads : List Token → List Char → List Char → Prop where
  | nil (text : List Char) : Leads [] text text
  | cons {token : Token} {tokens : List Token} {gap written rest left : List Char}
    (hgap : IsGap gap) (htoken : WritesToken token written) (hends : EndsWord rest)
    (hrest : Leads tokens rest left) : Leads (token :: tokens) (gap ++ (written ++ rest)) left

/-- A text is a list of tokens, with blanks between them and perhaps around them. -/
def Lists (tokens : List Token) (text : List Char) : Prop :=
  ∃ gap, Leads tokens text gap ∧ IsGap gap

/-- A key with a value whose opening quote is followed by some text. -/
def opened (key : String) (body : List Char) : List Char := key.toList ++ '=' :: '"' :: body

/-- A text breaks off in the quoted value of the last of its tokens, right after a backslash with
nothing to escape. -/
def IsCutOff (tokens : List Token) (text : List Char) : Prop :=
  ∃ earlier gap key body value, Leads earlier text (gap ++ opened key (body ++ ['\\'])) ∧
    IsGap gap ∧ IsKey key ∧ Quotes body value ∧
    tokens = earlier ++ [⟨key, some (String.ofList value)⟩]

/-- Where a token could begin a text is at its end, or it goes on with something that is no token.
Either way it is known what is read of it. -/
inductive Concludes : List Char → Except Malformed (List Token) → Prop where
  | atEnd : Concludes [] (.ok [])
  /-- The text ends right after a backslash, before the quote that closes the value. -/
  | cutOff {key : String} {body value : List Char} (hkey : IsKey key) (hbody : Quotes body value) :
    Concludes (opened key (body ++ ['\\'])) (.ok [⟨key, some (String.ofList value)⟩])
  | missingKey (rest : List Char) : Concludes ('=' :: rest) (.error .missingKey)
  /-- The text ends before the quote that closes the value. -/
  | unterminated {key : String} {body value : List Char} (hkey : IsKey key)
    (hbody : Quotes body value) : Concludes (opened key body) (.error (.unterminated key))
  | textAfterQuote {key : String} {body value rest : List Char} (hkey : IsKey key)
    (hbody : Quotes body value) (hrest : ¬EndsWord rest) :
    Concludes (opened key (body ++ '"' :: rest)) (.error (.textAfterQuote key))

/-! ### Values -/

variable {text value rest left gap : List Char} {key : String} {token : Token}
  {tokens : List Token} {outcome : Except Malformed (List Token)}

theorem isGap_nil : IsGap [] := nofun

/-- What stands for a value between quotes is read to it, whatever follows. -/
theorem Quotes.readQuoted_append (h : Quotes text value) (rest : List Char) :
    readQuoted (text ++ rest) =
      (readQuoted rest).map fun (more, after) ↦ (value ++ more, after) := by
  induction h with
  | nil => exact Option.map_id'.symm
  | @plain c text value hquote hbackslash htext ih =>
    rw [List.cons_append, readQuoted_cons hquote hbackslash, ih, Option.map_map]
    rfl
  | @escaped c text value htext ih =>
    rw [List.cons_append, List.cons_append, readQuoted_backslash, ih, Option.map_map]
    rfl

/-- What stands for a value between quotes is read as that value. Assumes: what follows ends it. -/
theorem Quotes.readQuoted_eq {tail : List Char} (h : Quotes text value)
    (hends : readQuoted tail = some ([], rest)) :
    readQuoted (text ++ tail) = some (value, rest) := by
  rw [h.readQuoted_append, hends]
  exact congrArg (fun value ↦ some (value, rest)) (List.append_nil value)

theorem Quotes.append {more others : List Char} (h : Quotes text value)
    (hmore : Quotes more others) :
    Quotes (text ++ more) (value ++ others) := by
  induction h with
  | nil => exact hmore
  | plain hquote hbackslash htext ih => exact .plain hquote hbackslash ih
  | escaped c htext ih => exact .escaped c ih

/-- A value with its quotes and backslashes escaped stands for it. -/
theorem quotes_escape (value : List Char) : Quotes (escape value) value := by
  induction value with
  | nil => exact .nil
  | cons c value ih =>
    rw [escape, List.flatMap_cons, ← escape]
    by_cases hspecial : c = '"' ∨ c = '\\'
    · rw [if_pos hspecial]
      exact .escaped c ih
    · rw [if_neg hspecial]
      obtain ⟨hquote, hbackslash⟩ := not_or.1 hspecial
      exact .plain hquote hbackslash ih

/-- A text after an opening quote stands for a value up to the closing one, or to its end, or to a
backslash at its end. -/
theorem exists_quotes (text : List Char) : ∃ body value tail, text = body ++ tail ∧
    Quotes body value ∧ ((∃ rest, tail = '"' :: rest) ∨ tail = [] ∨ tail = ['\\']) := by
  match text with
  | [] => exact ⟨[], [], [], rfl, .nil, .inr (.inl rfl)⟩
  | c :: text =>
    by_cases hquote : c = '"'
    · exact ⟨[], [], c :: text, rfl, .nil, .inl ⟨text, by rw [hquote]⟩⟩
    by_cases hbackslash : c = '\\'
    · rw [hbackslash]
      match text with
      | [] => exact ⟨[], [], ['\\'], rfl, .nil, .inr (.inr rfl)⟩
      | d :: text =>
        obtain ⟨body, value, tail, htext, hbody, htail⟩ := exists_quotes text
        exact ⟨'\\' :: d :: body, d :: value, tail, by rw [htext]; rfl, .escaped d hbody, htail⟩
    · obtain ⟨body, value, tail, htext, hbody, htail⟩ := exists_quotes text
      exact ⟨c :: body, c :: value, tail, by rw [htext]; rfl, .plain hquote hbackslash hbody, htail⟩

/-- What is written after an equals sign is read as the value, up to a blank or the end. -/
theorem WritesValue.readValue_append {value : String} (h : WritesValue value text)
    (hends : EndsWord rest) (key : String) :
    readValue key (text ++ rest) = .ok (value, rest) := by
  cases h with
  | @bare text hblank hquote =>
    have hstops : rest.head?.all (!(fun c ↦ !isBlank c) ·) = true := by
      simpa only [Bool.not_not, EndsWord] using hends
    obtain ⟨htake, hdrop⟩ := span_append (fun c hc ↦ by rw [hblank c hc]; rfl) hstops
    have hne : ∀ more, text ++ rest ≠ '"' :: more := by
      intro more hmore
      cases text with
      | nil =>
        rw [List.nil_append] at hmore
        rw [hmore] at hends
        exact absurd (show isBlank '"' = true from hends) (by decide)
      | cons c text => exact hquote (congrArg some (List.cons.inj hmore).1)
    rw [readValue.eq_2 key (text ++ rest) hne, htake, hdrop]
  | @quoted body value hbody =>
    have hread : readQuoted (body ++ ['"'] ++ rest) = some (value, rest) := by
      rw [List.append_assoc]
      exact hbody.readQuoted_eq rfl
    rw [List.cons_append, readValue, hread]
    exact if_pos hends

/-! ### Tokens -/

theorem WritesToken.isKey (h : WritesToken token text) : IsKey token.key := by
  cases h with
  | key hkey => exact hkey
  | value hkey hvalue => exact hkey

theorem WritesToken.exists_eq (h : WritesToken token text) :
    ∃ rest, text = token.key.toList ++ rest := by
  cases h with
  | key hkey => exact ⟨[], (List.append_nil _).symm⟩
  | value hkey hvalue => exact ⟨_, rfl⟩

/-- A token is read, up to a blank or the end. -/
theorem WritesToken.readToken_append (h : WritesToken token text) (hends : EndsWord rest) :
    readToken (text ++ rest) = .ok (token, rest) := by
  cases h with
  | key hkey => exact readToken_bare hkey hends
  | value hkey hvalue =>
    rw [List.append_assoc, List.cons_append, readToken_value hkey,
      hvalue.readValue_append hends]
    rfl

/-- Blanks before a text do not matter to its tokens. -/
theorem tokenize_gap_append (hgap : IsGap gap) (text : List Char) :
    tokenize (gap ++ text) = tokenize text := by
  rw [← tokenize_dropBlanks, dropBlanks, List.dropWhile_append_of_pos hgap, ← dropBlanks,
    tokenize_dropBlanks]

/-- A text that begins with a key has what is read there as its first token. -/
theorem tokenize_key_append (hkey : IsKey key) (rest : List Char) :
    tokenize (key.toList ++ rest) = (readToken (key.toList ++ rest)).bind fun (token, after) ↦
      (tokenize after).map (token :: ·) := by
  obtain ⟨c, name, hname, hblank⟩ := hkey.exists_cons
  have hdrop : dropBlanks (key.toList ++ rest) = key.toList ++ rest := by
    rw [hname, List.cons_append, dropBlanks, List.dropWhile_cons_of_neg]
    rw [hblank]
    exact Bool.false_ne_true
  rw [tokenize_eq, hdrop, if_neg]
  rw [hname]
  exact Bool.false_ne_true

/-- A text that begins with a key and an opening quote has the value that is read there as its first
one. -/
theorem tokenize_opened (hkey : IsKey key) (body : List Char) :
    tokenize (opened key body) = (readValue key ('"' :: body)).bind fun found ↦
      (tokenize found.2).map (⟨key, some found.1⟩ :: ·) := by
  rw [opened, tokenize_key_append hkey, readToken_value hkey]
  cases readValue key ('"' :: body) <;> rfl

/-- The tokens at the beginning of a text are read, and then those of what is left. -/
theorem tokenize_of_leads (h : Leads tokens text left) :
    tokenize text = (tokenize left).map (tokens ++ ·) := by
  induction h with
  | nil text => cases tokenize text <;> rfl
  | @cons token tokens gap written rest left hgap htoken hends hrest ih =>
    obtain ⟨more, rfl⟩ := htoken.exists_eq
    have hread := htoken.readToken_append hends
    rw [List.append_assoc] at hread
    rw [tokenize_gap_append hgap, List.append_assoc, tokenize_key_append htoken.isKey, hread]
    change (tokenize rest).map (token :: ·) = _
    rw [ih]
    cases tokenize left <;> rfl

/-- What is no token is read as it should be. -/
theorem tokenize_of_concludes (h : Concludes text outcome) : tokenize text = outcome := by
  cases h with
  | atEnd => exact tokenize_nil
  | @cutOff key body value hkey hbody =>
    rw [tokenize_opened hkey, readValue, hbody.readQuoted_eq rfl]
    change (tokenize []).map _ = _
    rw [tokenize_nil]
    rfl
  | missingKey rest =>
    rw [tokenize_eq]
    rfl
  | @unterminated key body value hkey hbody =>
    have hread : readQuoted body = none := by
      have happend := hbody.readQuoted_append []
      rwa [List.append_nil] at happend
    rw [tokenize_opened hkey, readValue, hread]
    rfl
  | @textAfterQuote key body value rest hkey hbody hrest =>
    rw [tokenize_opened hkey, readValue, hbody.readQuoted_eq rfl]
    simp only [if_neg (show ¬rest.head?.all isBlank = true from hrest)]
    rfl

/-! ### What a text comes down to -/

/-- A text is a run of characters of a kind, which can be empty, and what follows it. -/
theorem exists_span (p : Char → Bool) (text : List Char) : ∃ run rest, text = run ++ rest ∧
    (∀ c ∈ run, p c = true) ∧ rest.head?.all (!p ·) = true := by
  refine ⟨text.takeWhile p, text.dropWhile p, List.takeWhile_append_dropWhile.symm,
    fun c hc ↦ List.mem_takeWhile_imp hc, ?_⟩
  have hstops := List.head?_dropWhile_not p text
  cases hrest : (text.dropWhile p).head? with
  | none => rfl
  | some c =>
    rw [hrest] at hstops
    simpa using hstops

/-- After an equals sign there is a value, or the text comes down to something else. -/
theorem exists_writesValue (hkey : IsKey key) (text : List Char) :
    (∃ value written rest, text = written ++ rest ∧ WritesValue value written ∧ EndsWord rest) ∨
      ∃ outcome, Concludes (key.toList ++ '=' :: text) outcome := by
  by_cases hquote : text.head? = some '"'
  · obtain ⟨more, rfl⟩ := List.head?_eq_some_iff.1 hquote
    obtain ⟨body, value, tail, rfl, hbody, ⟨rest, rfl⟩ | rfl | rfl⟩ := exists_quotes more
    · by_cases hends : EndsWord rest
      · exact .inl ⟨_, '"' :: (body ++ ['"']), rest, by simp, .quoted hbody, hends⟩
      · exact .inr ⟨_, .textAfterQuote hkey hbody hends⟩
    · rw [List.append_nil]
      exact .inr ⟨_, .unterminated hkey hbody⟩
    · exact .inr ⟨_, .cutOff hkey hbody⟩
  · obtain ⟨run, rest, rfl, hrun, hrest⟩ := exists_span (!isBlank ·) text
    refine .inl ⟨_, run, rest, rfl, .bare (fun c hc ↦ by simpa using hrun c hc) ?_,
      by simpa [EndsWord] using hrest⟩
    intro hhead
    obtain ⟨more, rfl⟩ := List.head?_eq_some_iff.1 hhead
    exact hquote rfl

/-- After a key there is the rest of a token, or the text comes down to something else. Assumes: the
key is followed by a character that is none of a key, if by any. -/
theorem exists_writesToken (hkey : IsKey key) {after : List Char}
    (hafter : after.head?.all (!isKeyChar ·) = true) :
    (∃ token written rest, key.toList ++ after = written ++ rest ∧ WritesToken token written ∧
      EndsWord rest) ∨ ∃ outcome, Concludes (key.toList ++ after) outcome := by
  by_cases hequals : after.head? = some '='
  · obtain ⟨text, rfl⟩ := List.head?_eq_some_iff.1 hequals
    rcases exists_writesValue hkey text with ⟨value, written, rest, rfl, hvalue, hends⟩ | hother
    · exact .inl ⟨_, _, rest, by rw [List.append_assoc]; rfl, .value hkey hvalue, hends⟩
    · exact .inr hother
  · refine .inl ⟨_, _, after, rfl, .key hkey, ?_⟩
    cases after with
    | nil => exact EndsWord.nil
    | cons c rest =>
      refine EndsWord.cons ?_ rest
      have hne : c ≠ '=' := fun hc ↦ hequals (congrArg some hc)
      simpa [isKeyChar, hne] using hafter

/-- Every text begins with some tokens, and what is left after them and after blanks is nothing or
what is no token. -/
theorem exists_leads_concludes (text : List Char) : ∃ tokens gap rest outcome,
    Leads tokens text (gap ++ rest) ∧ IsGap gap ∧ Concludes rest outcome := by
  obtain ⟨gap, body, htext, hgap, hbody⟩ := exists_span isBlank text
  obtain ⟨run, after, hrun, hkeyChars, hafter⟩ := exists_span isKeyChar body
  by_cases hempty : run = []
  · -- No key: the text ends here, or an equals sign comes first.
    rw [hempty, List.nil_append] at hrun
    cases body with
    | nil => exact ⟨[], gap, [], _, htext ▸ .nil _, hgap, .atEnd⟩
    | cons c rest =>
      obtain rfl : c = '=' := by
        rw [← hrun] at hafter
        by_contra hne
        simp [isKeyChar, hne] at hafter hbody
        rw [hbody] at hafter
        cases hafter
      exact ⟨[], gap, '=' :: rest, _, htext ▸ .nil _, hgap, .missingKey rest⟩
  · have hkey : IsKey (String.ofList run) :=
      ⟨fun hnil ↦ hempty (String.ofList_eq_empty_iff.1 hnil), by rwa [String.toList_ofList]⟩
    have hcases := exists_writesToken hkey hafter
    rw [String.toList_ofList, ← hrun] at hcases
    rcases hcases with ⟨token, written, rest, hwritten, htoken, hends⟩ | ⟨outcome, houtcome⟩
    · have hshorter : rest.length < text.length := by
        obtain ⟨more, hmore⟩ := htoken.exists_eq
        obtain ⟨c, name, hname, -⟩ := htoken.isKey.exists_cons
        rw [htext, hwritten, hmore, hname]
        simp only [List.length_append, List.length_cons]
        omega
      obtain ⟨tokens, gap', left, outcome, hleads, hgap', hleft⟩ := exists_leads_concludes rest
      refine ⟨token :: tokens, gap', left, outcome, ?_, hgap', hleft⟩
      rw [htext, hwritten]
      exact .cons hgap htoken hends hleads
    · exact ⟨[], gap, body, outcome, htext ▸ .nil _, hgap, houtcome⟩
termination_by text.length

/-! ### Which texts are accepted -/

theorem tokenize_of_leads_concludes (hleads : Leads tokens text (gap ++ rest)) (hgap : IsGap gap)
    (hrest : Concludes rest outcome) : tokenize text = outcome.map (tokens ++ ·) := by
  rw [tokenize_of_leads hleads, tokenize_gap_append hgap, tokenize_of_concludes hrest]

theorem tokenize_of_lists (h : Lists tokens text) : tokenize text = .ok tokens := by
  obtain ⟨gap, hleads, hgap⟩ := h
  rw [← List.append_nil gap] at hleads
  rw [tokenize_of_leads_concludes hleads hgap .atEnd]
  exact congrArg Except.ok (List.append_nil tokens)

theorem tokenize_of_isCutOff (h : IsCutOff tokens text) : tokenize text = .ok tokens := by
  obtain ⟨earlier, gap, key, body, value, hleads, hgap, hkey, hbody, rfl⟩ := h
  rw [tokenize_of_leads_concludes hleads hgap (.cutOff hkey hbody)]
  rfl

theorem EndsWord.append {more : List Char} (h : EndsWord text) (hmore : EndsWord more) :
    EndsWord (text ++ more) := by
  cases text with
  | nil => exact hmore
  | cons c text => exact h

/-- Tokens at the beginning of a text stay when more is written after it. Assumes: what is written
does not go on with the last word. -/
theorem Leads.append {more : List Char} (h : Leads tokens text left) (hmore : EndsWord more) :
    Leads tokens (text ++ more) (left ++ more) := by
  induction h with
  | nil text => exact .nil _
  | @cons token tokens gap written rest left hgap htoken hends hrest ih =>
    rw [List.append_assoc, List.append_assoc]
    exact .cons hgap htoken (hends.append hmore) ih

/-- A list of tokens does not break off in a quoted value. With a space after it a list of tokens
would still be one, and a text that breaks off would have a value without a closing quote. -/
theorem Lists.not_isCutOff {others : List Token} (h : Lists tokens text) :
    ¬IsCutOff others text := by
  rintro ⟨earlier, gap, key, body, value, hleads, hgap, hkey, hbody, -⟩
  have hspace : EndsWord [' '] := EndsWord.cons (by decide) []
  obtain ⟨blanks, hlists, hblanks⟩ := h
  have hok : tokenize (text ++ [' ']) = .ok tokens := by
    refine tokenize_of_lists ⟨blanks ++ [' '], hlists.append hspace, fun c hc ↦ ?_⟩
    rcases List.mem_append.1 hc with hc | hc
    · exact hblanks c hc
    · rw [List.mem_singleton.1 hc]
      decide
  have herror : tokenize (text ++ [' ']) = .error (.unterminated key) := by
    have hopened : Quotes (body ++ ['\\', ' ']) (value ++ [' ']) :=
      hbody.append (.escaped ' ' .nil)
    have hspaced := hleads.append hspace
    have htext : gap ++ opened key (body ++ ['\\']) ++ [' '] =
        gap ++ opened key (body ++ ['\\', ' ']) := by
      simp [opened]
    rw [htext] at hspaced
    rw [tokenize_of_leads_concludes hspaced hgap (.unterminated hkey hopened)]
    rfl
  exact nomatch hok.symm.trans herror

/-- Which texts are accepted. The tokens of a text are read exactly when it is a list of them, or
when the value of the last one is opened by a quote and the text breaks off in it right after a
backslash; it is never both. Everywhere else a value that is not closed is refused: that its quote
is missing is reported exactly when the text ends in such a value and not right after such a
backslash. -/
theorem tokenize_accepts (text : List Char) :
    (∀ tokens, tokenize text = .ok tokens ↔ Lists tokens text ∨ IsCutOff tokens text) ∧
    (∀ key, tokenize text = .error (.unterminated key) ↔
      ∃ tokens gap body value, Leads tokens text (gap ++ opened key body) ∧ IsGap gap ∧
        IsKey key ∧ Quotes body value) ∧
    ¬((∃ tokens, Lists tokens text) ∧ ∃ tokens, IsCutOff tokens text) := by
  obtain ⟨earlier, gap, rest, outcome, hleads, hgap, hrest⟩ := exists_leads_concludes text
  have hread := tokenize_of_leads_concludes hleads hgap hrest
  refine ⟨fun tokens ↦ ⟨fun hok ↦ ?_, fun h ↦ h.elim tokenize_of_lists tokenize_of_isCutOff⟩,
    fun key ↦ ⟨fun herror ↦ ?_, ?_⟩, fun ⟨⟨_, hlists⟩, _, hcut⟩ ↦ hlists.not_isCutOff hcut⟩
  · rw [hread] at hok
    cases hrest with
    | atEnd =>
      have htokens : earlier ++ [] = tokens := Except.ok.inj hok
      rw [List.append_nil] at hleads htokens
      exact .inl ⟨gap, htokens ▸ hleads, hgap⟩
    | cutOff hkey hbody =>
      exact .inr ⟨earlier, gap, _, _, _, hleads, hgap, hkey, hbody, (Except.ok.inj hok).symm⟩
    | missingKey | unterminated | textAfterQuote => cases hok
  · rw [hread] at herror
    cases hrest with
    | unterminated hkey hbody =>
      obtain rfl := Malformed.unterminated.inj (Except.error.inj herror)
      exact ⟨earlier, gap, _, _, hleads, hgap, hkey, hbody⟩
    | atEnd | cutOff | missingKey | textAfterQuote => cases herror
  · rintro ⟨tokens, gap, body, value, hleads, hgap, hkey, hbody⟩
    rw [tokenize_of_leads_concludes hleads hgap (.unterminated hkey hbody)]
    rfl

/-- A value is opened by a quote that is never closed, and its last character is a backslash. The
text is accepted although it is no list of tokens. -/
theorem tokenize_backslash_at_end :
    let text := "a=\"b\\".toList
    tokenize text = .ok [⟨"a", some "b"⟩] ∧ ¬∃ tokens, Lists tokens text := by
  intro text
  have hcut : IsCutOff [⟨"a", some "b"⟩] text :=
    ⟨[], [], "a", ['b'], ['b'], .nil _, isGap_nil, by decide,
      .plain (by decide) (by decide) .nil, rfl⟩
  exact ⟨tokenize_of_isCutOff hcut, fun ⟨_, hlists⟩ ↦ hlists.not_isCutOff hcut⟩

/-! ### Written tokens -/

/-- How a token is written: its key alone, or its key, an equals sign and its value. The value
stands between quotes with its quotes and backslashes escaped, or as it is if it holds no blank and
does not start with a quote. -/
inductive Token.IsWritten : Token → List Char → Prop where
  | key {key : String} (hkey : IsKey key) : IsWritten ⟨key, none⟩ key.toList
  | quoted {key : String} (hkey : IsKey key) (value : String) :
    IsWritten ⟨key, some value⟩ (key.toList ++ '=' :: (quote value).toList)
  | bare {key value : String} (hkey : IsKey key) (hblank : IsUnbroken value.toList)
    (hquote : value.toList.head? ≠ some '"') :
    IsWritten ⟨key, some value⟩ (key.toList ++ '=' :: value.toList)

/-- Tokens are written one after the other with blanks between them, at least one each time. -/
inductive AreWritten : List Token → List Char → Prop where
  | nil : AreWritten [] []
  | one {token : Token} {written : List Char} (htoken : token.IsWritten written) :
    AreWritten [token] written
  | cons {token next : Token} {tokens : List Token} {written gap rest : List Char}
    (htoken : token.IsWritten written) (hgap : IsGap gap) (hne : gap ≠ [])
    (hrest : AreWritten (next :: tokens) rest) :
    AreWritten (token :: next :: tokens) (written ++ (gap ++ rest))

theorem Token.IsWritten.writesToken (h : token.IsWritten text) : WritesToken token text := by
  cases h with
  | key hkey => exact .key hkey
  | @quoted key hkey value =>
    have hquote : (quote value).toList = '"' :: (escape value.toList ++ ['"']) := by
      simp [quote, escape]
    have hvalue := WritesValue.quoted (quotes_escape value.toList)
    rw [String.ofList_toList, ← hquote] at hvalue
    exact .value hkey hvalue
  | @bare key value hkey hblank hquote =>
    have hvalue := WritesValue.bare hblank hquote
    rw [String.ofList_toList] at hvalue
    exact .value hkey hvalue

theorem IsGap.endsWord_append (hgap : IsGap gap) (hne : gap ≠ []) (text : List Char) :
    EndsWord (gap ++ text) := by
  obtain ⟨c, more, rfl⟩ := List.exists_cons_of_ne_nil hne
  exact EndsWord.cons (hgap c List.mem_cons_self) _

/-- Blanks can be written before the first token. -/
theorem Leads.gap_append (hgap : IsGap gap) (h : Leads (token :: tokens) text left) :
    Leads (token :: tokens) (gap ++ text) left := by
  cases h with
  | @cons _ _ before written rest _ hbefore htoken hends hrest =>
    rw [← List.append_assoc]
    refine .cons (fun c hc ↦ ?_) htoken hends hrest
    rcases List.mem_append.1 hc with hc | hc
    · exact hgap c hc
    · exact hbefore c hc

theorem AreWritten.leads (h : AreWritten tokens text) : Leads tokens text [] := by
  induction h with
  | nil => exact .nil []
  | @one token written htoken =>
    have hleads : Leads [token] ([] ++ (written ++ [])) [] :=
      .cons isGap_nil htoken.writesToken EndsWord.nil (.nil [])
    rwa [List.nil_append, List.append_nil] at hleads
  | @cons token next tokens written gap rest htoken hgap hne hrest ih =>
    change Leads (token :: next :: tokens) ([] ++ (written ++ (gap ++ rest))) []
    exact .cons isGap_nil htoken.writesToken (hgap.endsWord_append hne rest) (ih.gap_append hgap)

/-- Tokens that are written one after the other are read, all of them and in their order, whatever
their values hold. -/
theorem tokenize_of_areWritten (h : AreWritten tokens text) : tokenize text = .ok tokens :=
  tokenize_of_lists ⟨[], h.leads, isGap_nil⟩

/-- Quotes and backslashes in a value, a bare key between a tab and a wide space, an empty value,
and an equals sign and a quote in a bare one. -/
theorem tokenize_of_areWritten_mixed :
    let tokens : List Token :=
      [⟨"a", some "x \"y\\"⟩, ⟨"b", none⟩, ⟨"c", some ""⟩, ⟨"d", some "e=\"f"⟩]
    let text := "a=\"x \\\"y\\\\\"\t b\u3000c= d=e=\"f".toList
    AreWritten tokens text ∧ tokenize text = .ok tokens := by
  intro tokens text
  have hpieces : text = "a=\"x \\\"y\\\\\"".toList ++ ("\t ".toList ++ ("b".toList ++
      ("\u3000".toList ++ ("c=".toList ++ (" ".toList ++ "d=e=\"f".toList))))) := by decide
  have hwritten : AreWritten tokens text := by
    rw [hpieces]
    exact .cons (.quoted (by decide) "x \"y\\") (by decide) (by decide)
      (.cons (.key (by decide)) (by decide) (by decide)
        (.cons (.bare (by decide) (by decide) (by decide)) (by decide) (by decide)
          (.one (.bare (by decide) (by decide) (by decide)))))
  exact ⟨hwritten, tokenize_of_areWritten hwritten⟩

end Runbook.Arguments
