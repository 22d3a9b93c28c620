import Runbook.Document.Parse
import Runbook.Proofs.Arguments.Writing
import Runbook.Proofs.Markdown.FenceLines
/-!
# Arguments on the line of a fence

The info string of a block passes two readers that both take a backslash for an escape. Markdown
resolves the line of the fence first, and the tokens of the arguments are read from what is left.
`Resolves` says that a line stands for an info string, each punctuation character of it escaped or
not; it covers both an info string that is escaped once more for Markdown (`resolves_escapeInfo`)
and one that is written without regard to Markdown (`resolves_infoText`). In the second case the
backslashes before the quotes and backslashes of the values are gone before the arguments are read.

`firstArguments?` is what a source makes of its first block: the kind and the tokens of its
arguments. `firstArguments?_eq` evaluates it on a source that starts with a fence, and
`firstArguments?_of_written` is the result for both ways of writing. Escaped once more, all
arguments arrive. Written as they are, they arrive exactly when no value holds a quote or a
backslash.
-/

set_option autoImplicit false

namespace Runbook.Document

open Text Markdown Arguments

/-! ### Resolving a line -/

/-- No ampersand of a text starts a character reference. -/
def IsReferenceFree (text : List Char) : Prop :=
  ∀ before after, text = before ++ '&' :: after → reference? after = none

theorem IsReferenceFree.of_append {before text : List Char}
    (h : IsReferenceFree (before ++ text)) : IsReferenceFree text := fun inner after htext ↦
  h (before ++ inner) after (by rw [htext, List.append_assoc])

/-- A line stands for a text in which its escapes are resolved. It has no character references. -/
inductive Resolves : List Char → List Char → Prop where
  | nil : Resolves [] []
  | plain {c : Char} {line text : List Char} (hbackslash : c ≠ '\\') (hreturn : c ≠ '\r')
      (hreference : c = '&' → reference? line = none) (h : Resolves line text) :
      Resolves (c :: line) (c :: text)
  | escaped {c : Char} {line text : List Char} (hc : isPunctuation c = true)
      (h : Resolves line text) : Resolves ('\\' :: c :: line) (c :: text)

variable {line text : List Char}

theorem Resolves.resolve (h : Resolves line text) {fuel : Nat} (hfuel : line.length ≤ fuel) :
    Markdown.resolve fuel line = text := by
  induction h generalizing fuel with
  | nil => cases fuel <;> rfl
  | @plain c line text hbackslash hreturn hreference h ih =>
    obtain ⟨fuel, rfl⟩ : ∃ left, fuel = left + 1 := ⟨fuel - 1, by simp at hfuel; omega⟩
    have hrest := ih (Nat.le_of_succ_le_succ hfuel)
    by_cases hreferring : c = '&'
    · rw [hreferring, Markdown.resolve, hreference hreferring]
      simp only [hrest]
    · rw [Markdown.resolve, hrest] <;> simp [hbackslash, hreturn, hreferring]
  | @escaped c line text hc h ih =>
    obtain ⟨fuel, rfl⟩ : ∃ left, fuel = left + 1 := ⟨fuel - 1, by simp at hfuel; omega⟩
    simp only [List.length_cons] at hfuel
    rw [Markdown.resolve, if_pos hc, ih (by omega)]

theorem Resolves.unescape (h : Resolves line text) : Markdown.unescape line = text :=
  h.resolve (Nat.le_refl _)

/-- Resolving takes away backslashes alone. -/
theorem Resolves.mem_iff (h : Resolves line text) {c : Char} (hc : c ≠ '\\') :
    c ∈ line ↔ c ∈ text := by
  induction h with
  | nil => rfl
  | plain _ _ _ _ ih => rw [List.mem_cons, List.mem_cons, ih]
  | escaped _ _ ih => rw [List.mem_cons, List.mem_cons, List.mem_cons, ih, or_iff_right hc]

theorem Resolves.getLast?_eq (h : Resolves line text) : line.getLast? = text.getLast? := by
  induction h with
  | nil => rfl
  | plain _ _ _ _ ih => rw [List.getLast?_cons, List.getLast?_cons, ih]
  | escaped _ _ ih => rw [List.getLast?_cons_cons, List.getLast?_cons, List.getLast?_cons, ih]

theorem Resolves.head?_eq (h : Resolves line text) {c : Char} (hc : c ∈ line.head?)
    (hbackslash : c ≠ '\\') : c ∈ text.head? := by
  cases h with
  | nil => exact hc
  | plain => exact hc
  | escaped => exact absurd (Option.some.inj hc).symm hbackslash

/-! ### Writing a text for a line -/

/-- A text with all its punctuation escaped. -/
def escapeInfo (text : List Char) : List Char :=
  text.flatMap fun c ↦ if isPunctuation c then ['\\', c] else [c]

theorem resolves_escapeInfo (h : '\r' ∉ text) : Resolves (escapeInfo text) text := by
  induction text with
  | nil => exact .nil
  | cons c text ih =>
    rw [List.mem_cons, not_or] at h
    have hrest := ih h.2
    rw [escapeInfo, List.flatMap_cons, ← escapeInfo]
    by_cases hc : isPunctuation c = true
    · rw [if_pos hc]
      exact .escaped hc hrest
    · rw [if_neg hc]
      refine .plain ?_ (Ne.symm h.1) ?_ hrest
      · rintro rfl
        exact hc (by decide)
      · rintro rfl
        exact absurd (by decide) hc

/-- A mark does not start a text whose punctuation is escaped. -/
theorem head?_escapeInfo_ne {mark : Char} (hmark : IsMark mark) (text : List Char) :
    (escapeInfo text).head? ≠ some mark := by
  cases text with
  | nil => exact nofun
  | cons c text =>
    rw [escapeInfo, List.flatMap_cons]
    split
    · rcases hmark with rfl | rfl <;> simp
    · next hc =>
      rw [List.singleton_append, List.head?_cons, ne_eq, Option.some_inj]
      rintro rfl
      rcases hmark with rfl | rfl <;> exact hc (by decide)

/-- A text without backslashes stands for itself. -/
theorem Resolves.append (hplain : ∀ c ∈ text, c ≠ '\\' ∧ c ≠ '\r') {below info : List Char}
    (hfree : IsReferenceFree (text ++ below)) (h : Resolves below info) :
    Resolves (text ++ below) (text ++ info) := by
  induction text with
  | nil => exact h
  | cons c text ih =>
    rw [List.forall_mem_cons] at hplain
    have hrest : IsReferenceFree (text ++ below) := @IsReferenceFree.of_append [c] _ hfree
    refine .plain hplain.1.1 hplain.1.2 ?_ (ih hplain.2 hrest)
    rintro rfl
    exact hfree [] _ rfl

/-- A value that is escaped for its quotes stands for the value as it is. -/
theorem Resolves.append_escape {value below info : List Char} (hreturn : '\r' ∉ value)
    (hfree : IsReferenceFree (Arguments.escape value ++ below)) (h : Resolves below info) :
    Resolves (Arguments.escape value ++ below) (value ++ info) := by
  induction value with
  | nil => exact h
  | cons c value ih =>
    rw [List.mem_cons, not_or] at hreturn
    rw [Arguments.escape, List.flatMap_cons, List.append_assoc, ← Arguments.escape] at hfree ⊢
    have hrest := ih hreturn.2 hfree.of_append
    by_cases hspecial : c = '"' ∨ c = '\\'
    · rw [if_pos hspecial]
      refine .escaped ?_ hrest
      rcases hspecial with rfl | rfl <;> decide
    · rw [if_neg hspecial] at hfree ⊢
      refine .plain (fun hbackslash ↦ hspecial (.inr hbackslash)) (Ne.symm hreturn.1) ?_ hrest
      rintro rfl
      exact hfree [] _ rfl

/-! ### Info strings of runnable blocks -/

/-- The info string of a runnable block: the namespace, a colon, the word for the kind and the text
of the arguments. -/
def infoText (scope : String) (kind : Block.Kind) (arguments : List Char) : List Char :=
  scope.toList ++ (':' :: kind.tag.toList ++ arguments)

/-- The kind and the arguments of the first block of a source, `none` when the source cannot be
read or its first block is not runnable under the namespace. -/
def firstArguments? (source : List Char) (scope : String) :
    Option (Block.Kind × Except Malformed (List Token)) := do
  let document ← (ofSource source).toOption
  let block ← document.codeBlocks.head?
  let runnable ← (block.runnable? scope).toOption.join
  return (runnable.kind, tokenize runnable.arguments.toList)

/-- A word in front of a text that ends it is its first word. -/
theorem span_isBlank {word rest : List Char} (hword : ∀ c ∈ word, isBlank c = false)
    (hrest : EndsWord rest) :
    (word ++ rest).takeWhile (fun c ↦ !isBlank c) = word ∧
      (word ++ rest).dropWhile (fun c ↦ !isBlank c) = rest := by
  refine span_append (fun c hc ↦ by rw [hword c hc]; rfl) ?_
  simpa only [Bool.not_not, EndsWord] using hrest

theorem isBlank_of_isAsciiBlank {c : Char} (h : isAsciiBlank c = true) : isBlank c = true := by
  simp only [isAsciiBlank, isInlineBlank, Bool.or_eq_true, beq_iff_eq] at h
  rcases h with ((((rfl | rfl) | rfl) | rfl) | rfl) | rfl <;> decide

theorem isBlank_of_all {text : List Char} (h : text.all (fun c ↦ !isBlank c) = true) :
    ∀ c ∈ text, isBlank c = false := by
  intro c hc
  simpa using List.all_eq_true.1 h c hc

theorem isBlank_tag (kind : Block.Kind) : ∀ c ∈ kind.tag.toList, isBlank c = false :=
  isBlank_of_all (by cases kind <;> decide)

theorem dropOpening?_append (opening text : List Char) :
    dropOpening? opening (opening ++ text) = some text := by
  induction opening with
  | nil => rfl
  | cons o opening ih => rw [List.cons_append, dropOpening?, if_pos rfl, ih]

section Info

variable {scope : String} {kind : Block.Kind} {arguments : List Char}

/-- The tag at the start of an info string. -/
def tagText (scope : String) (kind : Block.Kind) : List Char :=
  scope.toList ++ ':' :: kind.tag.toList

theorem infoText_eq (scope : String) (kind : Block.Kind) (arguments : List Char) :
    infoText scope kind arguments = tagText scope kind ++ arguments := by
  rw [infoText, tagText, List.append_assoc, List.cons_append]

theorem isBlank_tagText (hscope : ∀ c ∈ scope.toList, isBlank c = false) (kind : Block.Kind) :
    ∀ c ∈ tagText scope kind, isBlank c = false := by
  intro c hc
  rcases List.mem_append.1 hc with hc | hc
  · exact hscope c hc
  · rcases List.mem_cons.1 hc with rfl | hc
    · decide
    · exact isBlank_tag kind c hc

theorem exists_tagText_eq_cons (scope : String) (kind : Block.Kind) :
    ∃ c text, tagText scope kind = c :: text :=
  List.exists_cons_of_ne_nil (by simp [tagText])

/-- No blank starts an info string whose tag holds none. -/
theorem dropBlanks_infoText (hscope : ∀ c ∈ scope.toList, isBlank c = false) (kind : Block.Kind)
    (arguments : List Char) :
    dropBlanks (infoText scope kind arguments) = infoText scope kind arguments := by
  obtain ⟨c, text, htag⟩ := exists_tagText_eq_cons scope kind
  have hc := isBlank_tagText hscope kind c (htag ▸ List.mem_cons_self)
  rw [infoText_eq, htag, List.cons_append, dropBlanks,
    List.dropWhile_cons_of_neg (by rw [hc]; exact Bool.false_ne_true)]

/-- A text that ends in no blank has none to drop there. -/
theorem dropTrailing_of_getLast? {drop : Char → Bool} {text : List Char}
    (h : ∀ c ∈ text.getLast?, drop c = false) : dropTrailing drop text = text := by
  rw [dropTrailing]
  cases hlast : text.reverse with
  | nil => rw [List.reverse_eq_nil_iff.1 hlast]; rfl
  | cons c before =>
    have hc := h c (by rw [List.getLast?_eq_head?_reverse, hlast]; rfl)
    rw [List.dropWhile_cons_of_neg (by rw [hc]; exact Bool.false_ne_true), ← hlast,
      List.reverse_reverse]

/-- A code block with such an info string is runnable, and its arguments are those of the info
string. Assumes: the namespace has no blank, the arguments start with one if there are any, and the
info string does not end with one. -/
theorem runnable?_infoText (hscope : ∀ c ∈ scope.toList, isBlank c = false)
    (harguments : EndsWord arguments)
    (hlast : ∀ c ∈ (infoText scope kind arguments).getLast?, isBlank c = false)
    {block : CodeBlock} (hinfo : block.info = String.ofList (infoText scope kind arguments)) :
    block.runnable? scope =
      .ok (some ⟨kind, String.ofList (dropBlanks arguments), block.body⟩) := by
  obtain ⟨hfirst, hrest⟩ := span_isBlank (isBlank_tagText hscope kind) harguments
  have hlanguage : block.language = String.ofList (tagText scope kind) := by
    rw [CodeBlock.language, hinfo, String.toList_ofList, firstWord, dropBlanks_infoText hscope,
      infoText_eq, hfirst]
  have htext : block.argumentText = String.ofList (dropBlanks arguments) := by
    rw [CodeBlock.argumentText, trim, hinfo, String.toList_ofList, String.toList_ofList,
      dropBlanks_infoText hscope, dropTrailing_of_getLast? hlast, infoText_eq]
    simp only [hrest]
  have hword : CodeBlock.kindWord? scope block.language = some kind.tag := by
    have hopening := dropOpening?_append (scope.toList ++ [':']) kind.tag.toList
    rw [List.append_assoc, List.singleton_append] at hopening
    rw [CodeBlock.kindWord?, hlanguage, String.toList_ofList, tagText, hopening, Option.map_some,
      String.ofList_toList]
  rw [CodeBlock.runnable?, hword]
  simp only [Block.Kind.ofTag?_tag, htext]

end Info

/-! ### The first block of a source -/

variable {mark : Char} {length : Nat}

/-- A source that starts with a fence and a line after it. -/
def fenceSource (mark : Char) (length : Nat) (line below : List Char) : List Char :=
  List.replicate length mark ++ (line ++ '\n' :: below)

/-- A source that starts with a fence has no settings. -/
theorem read_fenceSource (hmark : IsMark mark) (hlength : 3 ≤ length) (line below : List Char) :
    Frontmatter.read (fenceSource mark length line below) =
      .ok (none, fenceSource mark length line below) := by
  obtain ⟨shorter, rfl⟩ : ∃ shorter, length = shorter + 1 := ⟨length - 1, by omega⟩
  rw [fenceSource, List.replicate_succ, List.cons_append, Frontmatter.read, Frontmatter.split]
  rcases hmark with rfl | rfl <;> rfl

/-- The first block of a source that is cut at a span at its start is that of the span. -/
theorem head?_codeBlocks_cut (source : List Char) {span : Span} (hstart : span.start = 0)
    (frontmatter : Option Frontmatter) (spans : List Span) :
    (Document.mk frontmatter (cut source 0 (span :: spans))).codeBlocks.head? =
      some ⟨String.ofList span.info, String.ofList span.body,
        some (String.ofList (rawText source span))⟩ := by
  rw [codeBlocks, cut, hstart, markdownBetween, if_neg (Nat.lt_irrefl 0), List.nil_append]
  rfl

/-- The first block of a source that starts with a fence and an info string has that info string,
resolved. -/
theorem codeBlocks_fenceSource (hmark : IsMark mark) (hlength : 3 ≤ length)
    (hline : InfoLine mark line) (below : List Char) :
    ∃ document block, ofSource (fenceSource mark length line below) = .ok document ∧
      document.codeBlocks.head? = some block ∧ block.info = String.ofList (unescape line) := by
  obtain ⟨fence, others, hfences, hremaining, hinfo⟩ :=
    fences_of_openingFence hmark hlength hline below
  have hread := read_fenceSource hmark hlength line below
  rw [← fenceSource] at hfences hremaining
  have hstart : (spanOfFence (fenceSource mark length line below) 0 fence).start = 0 := by
    rw [spanOfFence, hremaining, Nat.sub_self]
  have hspans : spans (fenceSource mark length line below) (fenceSource mark length line below) =
      spanOfFence (fenceSource mark length line below) 0 fence ::
        others.map (spanOfFence (fenceSource mark length line below) 0) := by
    rw [spans, hfences, Nat.sub_self, List.map_cons]
  have hsource : ofSource (fenceSource mark length line below) =
      .ok ⟨none, cut (fenceSource mark length line below) 0
        (spans (fenceSource mark length line below) (fenceSource mark length line below))⟩ := by
    rw [ofSource, hread]
  rw [hspans] at hsource
  exact ⟨_, _, hsource, head?_codeBlocks_cut _ hstart _ _, congrArg String.ofList hinfo⟩

/-- What a source makes of its first block when it starts with a fence and a line that stands for an
info string. Assumes: the namespace has no blank, the arguments start with one if there are any, and
the info string is one line that does not end with a blank, has no backtick after a fence of
backticks and does not lengthen the fence. -/
theorem firstArguments?_eq (hmark : IsMark mark) (hlength : 3 ≤ length) {scope : String}
    {kind : Block.Kind} {arguments : List Char} (hscope : ∀ c ∈ scope.toList, isBlank c = false)
    (harguments : EndsWord arguments)
    (hlast : ∀ c ∈ (infoText scope kind arguments).getLast?, isBlank c = false)
    (honeLine : '\n' ∉ infoText scope kind arguments)
    (hbacktick : mark = '`' → '`' ∉ infoText scope kind arguments)
    (hresolves : Resolves line (infoText scope kind arguments))
    (hstarts : line.head? ≠ some mark) (below : List Char) :
    firstArguments? (fenceSource mark length line below) scope =
      some (kind, tokenize arguments) := by
  have hline : InfoLine mark line := by
    refine ⟨?_, ?_, ?_, ?_⟩
    · rwa [hresolves.mem_iff (by decide)]
    · intro hmark
      rw [hresolves.mem_iff (by decide)]
      exact hbacktick hmark
    · intro c hc
      refine ⟨fun heq ↦ hstarts (heq ▸ hc), ?_⟩
      by_cases hbackslash : c = '\\'
      · rw [hbackslash]
        rfl
      · -- The line starts as the tag does.
        obtain ⟨d, text, htag⟩ := exists_tagText_eq_cons scope kind
        have hd := isBlank_tagText hscope kind d (htag ▸ List.mem_cons_self)
        have hhead := hresolves.head?_eq hc hbackslash
        rw [infoText_eq, htag] at hhead
        obtain rfl : d = c := Option.some.inj hhead
        cases hinline : isInlineBlank d with
        | false => rfl
        | true =>
          rw [isBlank_of_isAsciiBlank (by simp [isAsciiBlank, hinline])] at hd
          exact hd
    · intro c hc
      rw [hresolves.getLast?_eq] at hc
      cases hascii : isAsciiBlank c with
      | false => rfl
      | true => exact (isBlank_of_isAsciiBlank hascii).symm.trans (hlast c hc)
  obtain ⟨document, block, hdocument, hblock, hinfo⟩ :=
    codeBlocks_fenceSource hmark hlength hline below
  rw [hresolves.unescape] at hinfo
  have hrunnable := runnable?_infoText hscope harguments hlast hinfo
  rw [firstArguments?, hdocument]
  simp [Except.toOption, hblock, hrunnable, tokenize_dropBlanks]

/-! ### Arguments as they are written -/

section Written

variable {scope : String} {kind : Block.Kind} {tokens : List Token}

/-- A character occurs in a namespace or in the keys and values of arguments. -/
def Mentions (c : Char) (scope : String) (tokens : List Token) : Prop :=
  c ∈ scope.toList ∨
    ∃ token ∈ tokens, c ∈ token.key.toList ∨ ∃ value ∈ token.value, c ∈ value.toList

instance (c : Char) (scope : String) (tokens : List Token) : Decidable (Mentions c scope tokens) :=
  inferInstanceAs (Decidable (_ ∨ ∃ token ∈ tokens, _ ∨ ∃ value ∈ token.value, c ∈ value.toList))

/-- A character of an info string that none of its fixed parts has is one of the namespace or of the
arguments. Assumes: the form of the values adds no such character. -/
theorem mentions_of_mem_infoText {form : List Char → List Char} {c : Char}
    (hform : ∀ value, c ∈ form value → c ∈ value) (hfixed : c ∉ ":= \"".toList)
    (htag : c ∉ kind.tag.toList) (h : c ∈ infoText scope kind (spaced form tokens)) :
    Mentions c scope tokens := by
  obtain ⟨hcolon, hequals, hspace, hquote⟩ : c ≠ ':' ∧ c ≠ '=' ∧ c ≠ ' ' ∧ c ≠ '"' := by
    simpa using hfixed
  simp only [infoText, List.cons_append, List.mem_append, List.mem_cons, hcolon, htag, false_or]
    at h
  rcases h with h | h
  · exact .inl h
  · obtain ⟨token, htoken, hc⟩ := List.mem_flatMap.1 h
    refine .inr ⟨token, htoken, ?_⟩
    rw [List.mem_cons, or_iff_right hspace, Token.writeWith] at hc
    cases hvalue : token.value with
    | none => exact .inl (by simpa only [hvalue] using hc)
    | some value =>
      simp only [hvalue, List.mem_append, List.mem_cons, List.not_mem_nil, or_false, hequals,
        hquote, false_or] at hc
      exact hc.imp_right fun hc ↦ ⟨value, rfl, hform _ hc⟩

theorem mem_of_mem_escape {c : Char} (hc : c ≠ '\\') {value : List Char}
    (h : c ∈ Arguments.escape value) : c ∈ value := by
  obtain ⟨d, hd, hmem⟩ := List.mem_flatMap.1 h
  split at hmem
  · rcases List.mem_cons.1 hmem with rfl | hmem
    · exact absurd rfl hc
    · exact List.mem_singleton.1 hmem ▸ hd
  · exact List.mem_singleton.1 hmem ▸ hd

/-- The last character of a token that is written is no blank. -/
theorem exists_writeWith_eq_concat (form : List Char → List Char) {token : Token}
    (hkey : IsKey token.key) :
    ∃ before c, token.writeWith form = before ++ [c] ∧ isBlank c = false := by
  obtain ⟨key, value⟩ := token
  cases value with
  | none =>
    have hne : key.toList ≠ [] := fun hnil ↦ hkey.1 (String.toList_eq_nil_iff.1 hnil)
    refine ⟨key.toList.dropLast, key.toList.getLast hne,
      (List.dropLast_append_getLast hne).symm, ?_⟩
    have hchar := hkey.2 _ (List.getLast_mem hne)
    cases hblank : isBlank (key.toList.getLast hne) with
    | false => rfl
    | true => rw [isKeyChar_of_isBlank hblank] at hchar; cases hchar
  | some value =>
    exact ⟨key.toList ++ '=' :: '"' :: form value.toList, '"', by simp [Token.writeWith], by decide⟩

/-- The last character of an info string is no blank. -/
theorem isBlank_of_mem_getLast?_infoText (form : List Char → List Char)
    (hscope : ∀ c ∈ scope.toList, isBlank c = false) (hkeys : ∀ token ∈ tokens, IsKey token.key) :
    ∀ c ∈ (infoText scope kind (spaced form tokens)).getLast?, isBlank c = false := by
  rw [infoText_eq]
  rcases List.eq_nil_or_concat' tokens with rfl | ⟨before, last, rfl⟩
  · intro c hc
    rw [spaced, List.flatMap_nil, List.append_nil] at hc
    exact isBlank_tagText hscope kind c (List.mem_of_getLast? hc)
  · obtain ⟨start, c, hlast, hc⟩ := exists_writeWith_eq_concat form
      (hkeys last (List.mem_append_right _ List.mem_cons_self))
    have hconcat : tagText scope kind ++ spaced form (before ++ [last]) =
        tagText scope kind ++ spaced form before ++ ' ' :: start ++ [c] := by
      simp [spaced, hlast]
    rw [hconcat, List.getLast?_concat]
    rintro d hd
    rw [← Option.some.inj hd]
    exact hc

/-- Arguments that are escaped for their quotes alone stand for the arguments with their values as
they are. -/
theorem resolves_spaced (hreturn : ¬ Mentions '\r' scope tokens)
    (hbackslash : ∀ token ∈ tokens, '\\' ∉ token.key.toList)
    (hfree : IsReferenceFree (spaced Arguments.escape tokens)) :
    Resolves (spaced Arguments.escape tokens) (spaced id tokens) := by
  induction tokens with
  | nil => exact .nil
  | cons token tokens ih =>
    rw [List.forall_mem_cons] at hbackslash
    rw [spaced_cons] at hfree
    have hrest : Resolves (spaced Arguments.escape tokens) (spaced id tokens) := by
      refine ih ?_ hbackslash.2 (@IsReferenceFree.of_append (' ' :: _) _ hfree)
      rintro (hscope | ⟨other, hother, hmem⟩)
      · exact hreturn (.inl hscope)
      · exact hreturn (.inr ⟨other, List.mem_cons_of_mem _ hother, hmem⟩)
    have hkey : ∀ c ∈ token.key.toList, c ≠ '\\' ∧ c ≠ '\r' := fun c hc ↦
      ⟨fun heq ↦ hbackslash.1 (heq ▸ hc),
        fun heq ↦ hreturn (.inr ⟨token, List.mem_cons_self, .inl (heq ▸ hc)⟩)⟩
    rw [spaced_cons, spaced_cons]
    obtain ⟨key, value⟩ := token
    cases value with
    | none =>
      have hopening : ∀ c ∈ ' ' :: key.toList, c ≠ '\\' ∧ c ≠ '\r' := by
        rw [List.forall_mem_cons]
        exact ⟨by decide, hkey⟩
      exact hrest.append hopening hfree
    | some value =>
      simp only [Token.writeWith, List.append_assoc, List.cons_append, List.nil_append, id]
        at hfree ⊢
      have hvalue : '\r' ∉ value.toList := fun hmem ↦
        hreturn (.inr ⟨_, List.mem_cons_self, .inr ⟨value, rfl, hmem⟩⟩)
      have hopening : ∀ c ∈ ' ' :: (key.toList ++ ['=', '"']), c ≠ '\\' ∧ c ≠ '\r' := by
        rw [List.forall_mem_cons, List.forall_mem_append]
        exact ⟨by decide, hkey, by simp⟩
      have hend : Resolves ('"' :: spaced Arguments.escape tokens) ('"' :: spaced id tokens) :=
        .plain (by decide) (by decide) (fun hquote ↦ absurd hquote (by decide)) hrest
      have hsplit (text : List Char) : ' ' :: (key.toList ++ '=' :: '"' :: text) =
          ' ' :: (key.toList ++ ['=', '"']) ++ text := by simp
      rw [hsplit (Arguments.escape value.toList ++ _)] at hfree ⊢
      rw [hsplit (value.toList ++ _)]
      exact (Resolves.append_escape hvalue hfree.of_append hend).append hopening hfree

/-- A namespace and arguments that are written on the line of a fence, each value between quotes and
escaped for them. When the whole info string is escaped once more for Markdown, the first block of
the source has exactly these arguments. When it is not, the first block has exactly these arguments
if and only if no value holds a quote or a backslash. Assumes: the namespace has no blank and the
keys can be read; nothing has a line end, nor a backtick after a fence of backticks; and, for the
second part, neither the namespace nor a key has a backslash, the namespace does not lengthen the
fence, and no ampersand starts a character reference. -/
theorem firstArguments?_of_written (hmark : IsMark mark) (hlength : 3 ≤ length)
    (hscope : ∀ c ∈ scope.toList, isBlank c = false) (hkeys : ∀ token ∈ tokens, IsKey token.key)
    (hnewline : ¬ Mentions '\n' scope tokens) (hreturn : ¬ Mentions '\r' scope tokens)
    (hbacktick : mark = '`' → ¬ Mentions '`' scope tokens) (below : List Char) :
    firstArguments? (fenceSource mark length
        (escapeInfo (infoText scope kind (written tokens))) below) scope =
          some (kind, .ok tokens) ∧
      ('\\' ∉ scope.toList → (∀ token ∈ tokens, '\\' ∉ token.key.toList) →
        scope.toList.head? ≠ some mark →
        IsReferenceFree (infoText scope kind (written tokens)) →
        (firstArguments? (fenceSource mark length (infoText scope kind (written tokens)) below)
            scope = some (kind, .ok tokens) ↔
          ∀ token ∈ tokens, ∀ value ∈ token.value, IsPlain value.toList)) := by
  rw [written_eq]
  -- What does not occur in the namespace and the arguments does not occur in the info string.
  have habsent {form : List Char → List Char} {c : Char}
      (hform : ∀ value, c ∈ form value → c ∈ value) (hfixed : c ∉ ":= \"".toList)
      (htag : c ∉ kind.tag.toList) (hc : ¬ Mentions c scope tokens) :
      c ∉ infoText scope kind (spaced form tokens) := fun hmem ↦
    hc (mentions_of_mem_infoText hform hfixed htag hmem)
  constructor
  · have hinfo := tokenize_spaced_escape hkeys
    rw [← hinfo]
    refine firstArguments?_eq hmark hlength hscope (endsWord_spaced _ _)
      (isBlank_of_mem_getLast?_infoText _ hscope hkeys) ?_ ?_ (resolves_escapeInfo ?_) ?_ below
    · exact habsent (fun _ ↦ mem_of_mem_escape (by decide)) (by decide)
        (by cases kind <;> decide) hnewline
    · exact fun hfence ↦ habsent (fun _ ↦ mem_of_mem_escape (by decide)) (by decide)
        (by cases kind <;> decide) (hbacktick hfence)
    · exact habsent (fun _ ↦ mem_of_mem_escape (by decide)) (by decide)
        (by cases kind <;> decide) hreturn
    · exact head?_escapeInfo_ne hmark _
  · intro hplainScope hplainKeys hstarts hfree
    rw [← tokenize_spaced_id_iff hkeys]
    have hresolves : Resolves (infoText scope kind (spaced Arguments.escape tokens))
        (infoText scope kind (spaced id tokens)) := by
      rw [infoText_eq] at hfree
      rw [infoText_eq, infoText_eq]
      refine (resolves_spaced hreturn hplainKeys hfree.of_append).append ?_ hfree
      rw [tagText, List.forall_mem_append, List.forall_mem_cons]
      have htag : ∀ c ∈ kind.tag.toList, c ≠ '\\' ∧ c ≠ '\r' := by
        have hall : kind.tag.toList.all (fun c ↦ c ≠ '\\' ∧ c ≠ '\r') = true := by
          cases kind <;> decide
        exact fun c hc ↦ of_decide_eq_true (List.all_eq_true.1 hall c hc)
      refine ⟨fun c hc ↦ ⟨?_, ?_⟩, by decide, htag⟩
      · rintro rfl
        exact hplainScope hc
      · rintro rfl
        exact hreturn (.inl hc)
    have hhead : (infoText scope kind (spaced Arguments.escape tokens)).head? ≠ some mark := by
      rw [infoText]
      cases hscope' : scope.toList with
      | nil => rcases hmark with rfl | rfl <;> simp
      | cons c rest => rwa [hscope'] at hstarts
    rw [firstArguments?_eq hmark hlength hscope (endsWord_spaced _ _)
      (isBlank_of_mem_getLast?_infoText _ hscope hkeys) _ _ hresolves hhead below]
    · simp
    · exact habsent (fun _ ↦ id) (by decide) (by cases kind <;> decide) hnewline
    · exact fun hfence ↦ habsent (fun _ ↦ id) (by decide) (by cases kind <;> decide)
        (hbacktick hfence)

end Written

/-! ### A value with quotes -/

/-- The arguments of a screenshot whose alternative text has quotes. -/
def quotedAlt : List Token := [⟨"filename", some "a.png"⟩, ⟨"alt", some "The \"home\" page"⟩]

/-- The line of a fence with these arguments as the documentation has them written. -/
def quotedAltLine : List Char :=
  "run:screenshot filename=\"a.png\" alt=\"The \\\"home\\\" page\"".toList

theorem firstArguments?_of_written_quotedAlt :
    (∀ c ∈ "run".toList, isBlank c = false) ∧ (∀ token ∈ quotedAlt, IsKey token.key) ∧
      firstArguments? (fenceSource '`' 3 (escapeInfo quotedAltLine) "```\n".toList) "run" =
        some (.screenshot, .ok quotedAlt) ∧
      firstArguments? (fenceSource '`' 3 quotedAltLine "```\n".toList) "run" ≠
        some (.screenshot, .ok quotedAlt) := by
  have hscope : ∀ c ∈ "run".toList, isBlank c = false := isBlank_of_all (by decide)
  have hkeys : ∀ token ∈ quotedAlt, IsKey token.key := by decide
  have hline : infoText "run" .screenshot (written quotedAlt) = quotedAltLine := by
    decide
  have habsent (c : Char) (hc : c ∈ ['\n', '\r', '`']) : ¬ Mentions c "run" quotedAlt := by
    simp only [List.mem_cons, List.not_mem_nil, or_false] at hc
    rcases hc with rfl | rfl | rfl <;> decide
  obtain ⟨hescaped, hwritten⟩ := @firstArguments?_of_written _ _ _ .screenshot _ (.inl rfl)
    (Nat.le_refl 3) hscope hkeys (habsent _ (by decide)) (habsent _ (by decide))
    (fun _ ↦ habsent _ (by decide)) "```\n".toList
  rw [hline] at hescaped hwritten
  have hfree : IsReferenceFree quotedAltLine := by
    intro before after hsplit
    have hmem : '&' ∈ quotedAltLine := hsplit ▸ List.mem_append_right before List.mem_cons_self
    exact absurd hmem (by decide)
  have hiff := hwritten (by decide) (by decide) (by decide) hfree
  refine ⟨hscope, hkeys, hescaped, fun hread ↦ ?_⟩
  have hplain := hiff.1 hread ⟨"alt", "The \"home\" page"⟩ (by decide) _ rfl
  exact hplain.1 (by decide)

/-- Written as the documentation says, a value with quotes is refused. -/
theorem firstArguments?_quotedAltLine :
    quotedAltLine = infoText "run" .screenshot (written quotedAlt) ∧
      firstArguments? (fenceSource '`' 3 quotedAltLine "visit http://x\n```\n".toList) "run" =
        some (.screenshot, .error (.textAfterQuote "alt")) := by
  constructor
  · decide
  · decide +kernel

end Runbook.Document
