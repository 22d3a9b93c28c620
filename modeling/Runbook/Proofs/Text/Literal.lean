import Mathlib.Data.List.Basic
import Mathlib.Tactic.SplitIfs
import Runbook.Markdown.Entity
import Runbook.Text.Quoted
/-!
# Reading literals back

`readLiteral?` reads a string literal at the start of a text, as JSON defines it, and gives what the
literal means and what comes after it: escapes with one letter, escapes with four digits, also in
pairs for the code points above, and everything else for itself, but no control character. A text
that is written as a literal is read back whatever comes after it (`readLiteral?_literal`), so the
literal ends where it was meant to, and there is no end of a line in it (`le_of_mem_literal`).

Numbers between fixed texts are read back too, if none of these texts starts with a digit
(`readNumbers?_fillIn`).
-/

set_option autoImplicit false

namespace Runbook.Text

open Markdown (hexDigit?)

/-! ### The reader -/

/-- What a letter after a backslash means, which is not the letter before digits. -/
def shortEscape? : Char → Option Char
  | '"' => some '"'
  | '\\' => some '\\'
  | '/' => some '/'
  | 'b' => some '\x08'
  | 'f' => some '\x0c'
  | 'n' => some '\n'
  | 'r' => some '\r'
  | 't' => some '\t'
  | _ => none

/-- The number that the first four characters of a text are in base 16, and the rest of the text. -/
def fourDigits? : List Char → Option (Nat × List Char)
  | a :: b :: c :: d :: rest =>
    ([a, b, c, d].mapM hexDigit?).map fun digits ↦
      (digits.foldl (fun n digit ↦ 16 * n + digit) 0, rest)
  | _ => none

/-- The character that is escaped by digits: a code point below `0xd800` or from `0xe000`, or the
upper half of one, and then the lower half has to come in an escape after it. -/
def unitEscape? (text : List Char) : Option (Char × List Char) :=
  (fourDigits? text).bind fun (unit, rest) ↦
    if unit < 0xd800 ∨ 0xe000 ≤ unit then some (Char.ofNat unit, rest)
    else if 0xdc00 ≤ unit then none
    else (rest.dropPrefix? ['\\', 'u']).bind fun text ↦
      (fourDigits? text).bind fun (lower, rest) ↦
        if 0xdc00 ≤ lower ∧ lower < 0xe000 then
          some (Char.ofNat (0x10000 + (unit - 0xd800) * 0x400 + (lower - 0xdc00)), rest)
        else none

/-- The character that is escaped, of which the text after the backslash is given. -/
def readEscape? : List Char → Option (Char × List Char)
  | [] => none
  | letter :: rest =>
    if letter = 'u' then unitEscape? rest else (shortEscape? letter).map fun c ↦ (c, rest)

/-- The character that the inside of a literal starts with. -/
def readChar? : List Char → Option (Char × List Char)
  | [] => none
  | c :: rest =>
    if c = '\\' then readEscape? rest
    else if c = '"' ∨ c < ' ' then none
    else some (c, rest)

theorem length_lt_of_fourDigits? {text rest : List Char} {n : Nat}
    (h : fourDigits? text = some (n, rest)) : rest.length < text.length := by
  unfold fourDigits? at h
  split at h
  · obtain ⟨digits, -, heq⟩ := Option.map_eq_some_iff.1 h
    cases heq
    simp only [List.length_cons]
    omega
  · cases h

theorem length_lt_of_unitEscape? {text rest : List Char} {c : Char}
    (h : unitEscape? text = some (c, rest)) : rest.length < text.length := by
  obtain ⟨⟨unit, later⟩, hunit, h⟩ := Option.bind_eq_some_iff.1 h
  have hlater := length_lt_of_fourDigits? hunit
  dsimp only at h
  by_cases hplain : unit < 0xd800 ∨ 0xe000 ≤ unit
  · rw [if_pos hplain] at h
    cases h
    exact hlater
  · rw [if_neg hplain] at h
    by_cases hhalf : 0xdc00 ≤ unit
    · rw [if_pos hhalf] at h
      cases h
    · rw [if_neg hhalf] at h
      obtain ⟨second, hsecond, h⟩ := Option.bind_eq_some_iff.1 h
      obtain ⟨⟨lower, last⟩, hlower, h⟩ := Option.bind_eq_some_iff.1 h
      have hlast := length_lt_of_fourDigits? hlower
      have hlonger : second.length ≤ later.length := by
        obtain ⟨start, rfl, -⟩ := List.dropPrefix?_eq_some_iff.1 hsecond
        simp
      dsimp only at h
      by_cases hlow : 0xdc00 ≤ lower ∧ lower < 0xe000
      · rw [if_pos hlow] at h
        obtain ⟨-, rfl⟩ := Prod.mk.inj (Option.some.inj h)
        omega
      · rw [if_neg hlow] at h
        cases h

theorem length_lt_of_readEscape? {text rest : List Char} {c : Char}
    (h : readEscape? text = some (c, rest)) : rest.length < text.length := by
  cases text with
  | nil => cases h
  | cons letter later =>
    rw [readEscape?] at h
    split at h
    · exact Nat.lt_succ_of_lt (length_lt_of_unitEscape? h)
    · obtain ⟨meant, -, heq⟩ := Option.map_eq_some_iff.1 h
      cases heq
      exact Nat.lt_succ_self _

/-- Each character takes up some of the text. -/
theorem length_lt_of_readChar? {text rest : List Char} {c : Char}
    (h : readChar? text = some (c, rest)) : rest.length < text.length := by
  cases text with
  | nil => cases h
  | cons first later =>
    rw [readChar?] at h
    split at h
    · exact Nat.lt_succ_of_lt (length_lt_of_readEscape? h)
    · split at h
      · cases h
      · cases h
        exact Nat.lt_succ_self _

/-- What the inside of a literal means, up to its closing quote, and what comes after that. -/
def readInside? (text : List Char) : Option (List Char × List Char) :=
  if text.head? = some '"' then some ([], text.tail)
  else
    match _h : readChar? text with
    | none => none
    | some (c, rest) => (readInside? rest).map fun (meant, after) ↦ (c :: meant, after)
termination_by text.length
decreasing_by exact length_lt_of_readChar? _h

/-- What the literal at the start of a text means, and what comes after it. -/
def readLiteral? : List Char → Option (List Char × List Char)
  | '"' :: rest => readInside? rest
  | _ => none

/-! ### What is written is read back -/

/-- The digits of the control characters. -/
theorem fourDigits?_fourHexDigits {n : Nat} (h : n < 32) (rest : List Char) :
    fourDigits? (fourHexDigits n ++ rest) = some (n, rest) := by
  have hdigits : ∀ n < 32,
      fourHexDigits n = ['0', '0', Nat.digitChar (n / 16), Nat.digitChar (n % 16)] := by
    decide
  have hread : ∀ n < 32, (['0', '0', Nat.digitChar (n / 16), Nat.digitChar (n % 16)].mapM
      hexDigit?).map (fun digits ↦ digits.foldl (fun n digit ↦ 16 * n + digit) 0) = some n := by
    decide
  obtain ⟨digits, hmap, hvalue⟩ := Option.map_eq_some_iff.1 (hread n h)
  rw [hdigits n h, List.cons_append, List.cons_append, List.cons_append, List.cons_append,
    List.nil_append, fourDigits?, hmap, Option.map_some, hvalue]

theorem toNat_lt_of_lt_space {c : Char} (h : c < ' ') : c.toNat < 32 := h

/-- A character is read back. -/
theorem readChar?_literalChar (c : Char) (rest : List Char) :
    readChar? (literalChar c ++ rest) = some (c, rest) := by
  unfold literalChar
  split
  · next h => rcases h with rfl | rfl <;> rfl
  · next hplain =>
    obtain ⟨hquote, hbackslash⟩ := not_or.1 hplain
    split_ifs with hb hf hn hr ht hcontrol
    · rw [hb]; rfl
    · rw [hf]; rfl
    · rw [hn]; rfl
    · rw [hr]; rfl
    · rw [ht]; rfl
    · have hbelow := toNat_lt_of_lt_space hcontrol
      have hdigits := fourDigits?_fourHexDigits hbelow rest
      rw [List.append_assoc]
      change unitEscape? (fourHexDigits c.toNat ++ rest) = _
      rw [unitEscape?, hdigits, Option.bind_some]
      dsimp only
      rw [if_pos (Or.inl (by omega)), Char.ofNat_toNat]
    · rw [List.singleton_append, readChar?, if_neg hbackslash,
        if_neg (not_or.2 ⟨hquote, hcontrol⟩)]

theorem head?_literalChar_append (c : Char) (rest : List Char) :
    (literalChar c ++ rest).head? ≠ some '"' := by
  intro hhead
  have hread := readChar?_literalChar c rest
  obtain ⟨later, hlater⟩ := List.head?_eq_some_iff.1 hhead
  rw [hlater] at hread
  cases hread

theorem readInside?_flatMap (text rest : List Char) :
    readInside? (text.flatMap literalChar ++ '"' :: rest) = some (text, rest) := by
  induction text with
  | nil =>
    rw [List.flatMap_nil, List.nil_append, readInside?]
    exact if_pos rfl
  | cons c text ih =>
    rw [List.flatMap_cons, List.append_assoc, readInside?, if_neg (head?_literalChar_append c _)]
    split
    · next hnone =>
      rw [readChar?_literalChar] at hnone
      cases hnone
    · next d later hsome =>
      rw [readChar?_literalChar] at hsome
      cases hsome
      rw [ih]
      rfl

/-- A text that is written as a literal is read back, whatever comes after the literal. -/
theorem readLiteral?_literal (text rest : List Char) :
    readLiteral? (literal text ++ rest) = some (text, rest) := by
  rw [literal, List.cons_append, List.append_assoc]
  exact readInside?_flatMap text rest

-- A pair of escapes is one character, and a literal does not go on in the next line.
example : readLiteral? "\"\\ud83d\\ude00\\/\" x".toList = some ("😀/".toList, " x".toList) := by cbv

example : readLiteral? "\"a\nb\"".toList = none := by cbv

/-- A character is written without control characters. -/
theorem le_of_mem_literalChar {c d : Char} (h : d ∈ literalChar c) : ' ' ≤ d := by
  by_cases hcontrol : c < ' '
  · have hall : ∀ n < 32, (literalChar (Char.ofNat n)).all (fun d ↦ decide (' ' ≤ d)) = true := by
      decide
    rw [← Char.ofNat_toNat c] at h
    exact of_decide_eq_true (List.all_eq_true.1 (hall c.toNat (toNat_lt_of_lt_space hcontrol)) d h)
  · have hle : ' ' ≤ c := Char.not_lt.1 hcontrol
    have hne {e : Char} (he : e < ' ') : c ≠ e := fun heq ↦ hcontrol (heq ▸ he)
    by_cases hspecial : c = '"' ∨ c = '\\'
    · rw [literalChar, if_pos hspecial] at h
      rcases List.mem_cons.1 h with rfl | h
      · decide
      · rwa [List.mem_singleton.1 h]
    · rw [literalChar, if_neg hspecial, if_neg (hne (by decide)), if_neg (hne (by decide)),
        if_neg (hne (by decide)), if_neg (hne (by decide)), if_neg (hne (by decide)),
        if_neg hcontrol] at h
      rwa [List.mem_singleton.1 h]

/-- There are no control characters in a literal. -/
theorem le_of_mem_literal {text : List Char} {c : Char} (h : c ∈ literal text) : ' ' ≤ c := by
  rcases List.mem_cons.1 h with rfl | h
  · decide
  · rcases List.mem_append.1 h with h | h
    · obtain ⟨d, -, hc⟩ := List.mem_flatMap.1 h
      exact le_of_mem_literalChar hc
    · rw [List.mem_singleton.1 h]
      decide

/-! ### Numbers between texts -/

theorem isDigit_of_mem_toString {n : Nat} {c : Char} (h : c ∈ (toString n).toList) :
    c.isDigit = true := by
  rw [Nat.toString_eq_ofList_toDigits, String.toList_ofList] at h
  exact Nat.isDigit_of_mem_toDigits (by decide) (by decide) h

theorem le_of_mem_toString {n : Nat} {c : Char} (h : c ∈ (toString n).toList) : ' ' ≤ c := by
  have hdigit := isDigit_of_mem_toString h
  rw [Char.isDigit, Bool.and_eq_true, decide_eq_true_eq] at hdigit
  exact Char.le_trans (by decide : ' ' ≤ '0') hdigit.1

theorem toString_ne_nil (n : Nat) : (toString n).toList ≠ [] := by
  rw [Nat.toString_eq_ofList_toDigits, String.toList_ofList]
  exact Nat.toDigits_ne_nil

theorem ofDigitChars_toString (n : Nat) : Nat.ofDigitChars 10 (toString n).toList 0 = n := by
  rw [Nat.toString_eq_ofList_toDigits, String.toList_ofList]
  exact Nat.ofDigitChars_ten_toDigits

/-- A text with numbers in it, each of which is given with what comes after it. -/
def fillIn (first : String) (numbers : List (Nat × String)) : List Char :=
  first.toList ++ numbers.flatMap fun (n, piece) ↦ (toString n).toList ++ piece.toList

/-- There are no control characters in the text. Assumes: there are none around the numbers. -/
theorem le_of_mem_fillIn {first : String} {numbers : List (Nat × String)}
    (hfirst : ∀ c ∈ first.toList, ' ' ≤ c)
    (hpieces : ∀ piece ∈ numbers.map Prod.snd, ∀ c ∈ piece.toList, ' ' ≤ c) :
    ∀ c ∈ fillIn first numbers, ' ' ≤ c := by
  intro c h
  rcases List.mem_append.1 h with h | h
  · exact hfirst c h
  · obtain ⟨number, hnumber, hc⟩ := List.mem_flatMap.1 h
    rcases List.mem_append.1 hc with hdigit | hpiece
    · exact le_of_mem_toString hdigit
    · exact hpieces _ (List.mem_map_of_mem hnumber) c hpiece

/-- The numbers that stand in a text between a first piece and some more. -/
def readNumbers? : String → List String → List Char → Option (List Nat)
  | first, [], text => if text = first.toList then some [] else none
  | first, piece :: pieces, text => (text.dropPrefix? first.toList).bind fun text ↦
    let digits := text.takeWhile Char.isDigit
    if digits = [] then none
    else (readNumbers? piece pieces (text.dropWhile Char.isDigit)).map
      fun numbers ↦ Nat.ofDigitChars 10 digits 0 :: numbers

/-- Numbers are read back. Assumes: what comes after each of them does not start with a digit. -/
theorem readNumbers?_fillIn (first : String) {numbers : List (Nat × String)}
    (h : ∀ number ∈ numbers, ∃ c later, number.2 = String.ofList (c :: later) ∧
      c.isDigit = false) :
    readNumbers? first (numbers.map Prod.snd) (fillIn first numbers) =
      some (numbers.map Prod.fst) := by
  induction numbers generalizing first with
  | nil => exact if_pos (List.append_nil first.toList)
  | cons number numbers ih =>
    obtain ⟨⟨c, later, hpiece, hc⟩, hrest⟩ := List.forall_mem_cons.1 h
    obtain ⟨n, piece⟩ := number
    obtain rfl : piece = String.ofList (c :: later) := hpiece
    have hread := ih (String.ofList (c :: later)) hrest
    have hdigits : ∀ d ∈ (toString n).toList, d.isDigit = true := fun _ ↦ isDigit_of_mem_toString
    have htake (rest : List Char) :
        ((toString n).toList ++ c :: rest).takeWhile Char.isDigit = (toString n).toList := by
      rw [List.takeWhile_append_of_pos hdigits, List.takeWhile_cons_of_neg (by simp [hc]),
        List.append_nil]
    have hdrop (rest : List Char) :
        ((toString n).toList ++ c :: rest).dropWhile Char.isDigit = c :: rest := by
      rw [List.dropWhile_append_of_pos hdigits, List.dropWhile_cons_of_neg (by simp [hc])]
    have hfill : fillIn first ((n, String.ofList (c :: later)) :: numbers) =
        first.toList ++ ((toString n).toList ++ fillIn (String.ofList (c :: later)) numbers) := by
      rw [fillIn, List.flatMap_cons, List.append_assoc, fillIn]
    have hstart : fillIn (String.ofList (c :: later)) numbers =
        c :: (later ++ numbers.flatMap fun (n, piece) ↦ (toString n).toList ++ piece.toList) := by
      rw [fillIn, String.toList_ofList, List.cons_append]
    rw [hstart] at hread hfill
    rw [hfill, List.map_cons, readNumbers?,
      List.dropPrefix?_append_of_beq _ (beq_self_eq_true first.toList), Option.bind_some, htake,
      hdrop, hread]
    dsimp only
    rw [if_neg (toString_ne_nil n), ofDigitChars_toString, Option.map_some, List.map_cons]

/-! ### Texts without control characters -/

theorem le_of_mem_ofList {text : List Char} (h : text.all (fun c ↦ decide (' ' ≤ c)) = true) :
    ∀ c ∈ (String.ofList text).toList, ' ' ≤ c := by
  rw [String.toList_ofList]
  exact fun c hc ↦ of_decide_eq_true (List.all_eq_true.1 h c hc)

theorem le_of_mem_append {before after : String} (hbefore : ∀ c ∈ before.toList, ' ' ≤ c)
    (hafter : ∀ c ∈ after.toList, ' ' ≤ c) : ∀ c ∈ (before ++ after).toList, ' ' ≤ c := by
  rw [String.toList_append]
  exact List.forall_mem_append.2 ⟨hbefore, hafter⟩

end Runbook.Text
