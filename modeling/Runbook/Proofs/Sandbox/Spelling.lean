import Mathlib.Data.List.Basic
import Mathlib.Tactic.SplitIfs
import Runbook.Path.Basic
import Runbook.Proofs.Text.Line
import Runbook.Proofs.Text.Utf8
import Runbook.Sandbox.ByteText
import Runbook.Sandbox.FileSystem
/-!
# Paths on a file system

A path is a text, and a file system knows it as the text of its bytes. A slash is the only character
whose bytes have a slash among them, and a full stop the only one with a full stop, so the names in
the text of the bytes are the names in the path (`pieces_ofText`).

Putting a path below another one puts its names after those of the other (`pieces_join`). The path
without its last component has the names before that component (`pieces_parent`).
-/

set_option autoImplicit false

namespace Runbook.Sandbox

open Text

/-! ### Bytes of characters -/

namespace ByteText

/-- A character of one byte stands for itself, and the bytes of others stand for characters that are
none of these. -/
theorem chars_utf8EncodeChar (c : Char) : chars (String.utf8EncodeChar c) = [c] ∨
    127 < c.toNat ∧ ∀ d ∈ chars (String.utf8EncodeChar c), 127 < d.toNat := by
  have htoNat {value : Nat} (hvalue : value < 256) : (Char.ofNat value).toNat = value := by
    have hvalid : value.isValidChar := by
      simp only [Nat.isValidChar]
      omega
    rw [Char.ofNat, dif_pos hvalid]
    rfl
  by_cases hsmall : c.toNat ≤ 127
  · left
    have hencode : String.utf8EncodeChar c = [UInt8.ofNat c.toNat] := if_pos hsmall
    rw [hencode, chars, List.map_singleton, UInt8.toNat_ofNat', Nat.mod_eq_of_lt (by omega),
      Char.ofNat_toNat]
  · right
    have hbytes : ∀ byte ∈ String.utf8EncodeChar c, 127 < byte.toNat := by
      have hvalue : ¬c.val.toNat ≤ 127 := hsmall
      simp only [String.utf8EncodeChar, if_neg hvalue]
      split_ifs <;>
        simp only [List.mem_cons, List.not_mem_nil, or_false, forall_eq_or_imp, forall_eq,
          UInt8.toNat_ofNat'] <;>
        omega
    refine ⟨Nat.lt_of_not_le hsmall, fun d hd ↦ ?_⟩
    obtain ⟨byte, hin, rfl⟩ := List.mem_map.1 hd
    rw [htoNat byte.toNat_lt]
    exact hbytes byte hin

theorem chars_utf8EncodeChar_ne_nil (c : Char) : chars (String.utf8EncodeChar c) ≠ [] := by
  refine fun hnil ↦ Nat.ne_of_gt (Char.utf8Size_pos c) ?_
  rw [← String.length_utf8EncodeChar, List.map_eq_nil_iff.1 hnil, List.length_nil]

/-- The text of the bytes of a text. -/
def spelled (text : List Char) : List Char := chars (encodeChars text)

theorem spelled_cons (c : Char) (text : List Char) :
    spelled (c :: text) = chars (String.utf8EncodeChar c) ++ spelled text :=
  List.map_append

theorem toList_ofText (path : String) : (ofText path).toList = spelled path.toList :=
  String.toList_ofList

/-- A text and its bytes end in a slash or not. -/
theorem getLast?_spelled_eq_slash_iff (text : List Char) :
    (spelled text).getLast? = some '/' ↔ text.getLast? = some '/' := by
  rcases List.eq_nil_or_concat' text with rfl | ⟨before, c, rfl⟩
  · exact Iff.rfl
  · have happend : spelled (before ++ [c]) = spelled before ++ chars (String.utf8EncodeChar c) := by
      unfold spelled encodeChars chars
      rw [List.flatMap_append, List.map_append, List.flatMap_singleton]
    rw [happend, List.getLast?_concat]
    rcases chars_utf8EncodeChar c with hc | ⟨hlarge, hall⟩
    · rw [hc, List.getLast?_concat]
    · rw [List.getLast?_append_of_ne_nil _ (chars_utf8EncodeChar_ne_nil c)]
      refine iff_of_false (fun hlast ↦ ?_) fun hlast ↦ ?_
      · exact absurd (hall '/' (List.mem_of_getLast? hlast)) (by decide)
      · rw [Option.some.inj hlast] at hlarge
        exact absurd hlarge (by decide)

/-- What is spelled with characters of one byte only is spelled as itself. -/
theorem spelled_eq_iff {text plain : List Char} (hplain : ∀ c ∈ plain, c.toNat ≤ 127) :
    spelled text = plain ↔ text = plain := by
  induction text generalizing plain with
  | nil => exact Iff.rfl
  | cons c text ih =>
    rw [spelled_cons]
    rcases chars_utf8EncodeChar c with hc | ⟨hlarge, hall⟩
    · rw [hc, List.singleton_append]
      cases plain with
      | nil => exact iff_of_false nofun nofun
      | cons d plain =>
        rw [List.cons.injEq, List.cons.injEq, ih fun d hd ↦ hplain d (List.mem_cons_of_mem _ hd)]
    · refine iff_of_false (fun h ↦ ?_) fun h ↦ ?_
      · obtain ⟨d, rest, hd⟩ := List.exists_cons_of_ne_nil (chars_utf8EncodeChar_ne_nil c)
        have hsmall := hplain d (h ▸ hd ▸ List.mem_cons_self)
        have hlarge := hall d (hd ▸ List.mem_cons_self)
        omega
      · have hsmall := hplain c (h ▸ List.mem_cons_self)
        omega

/-- Cutting a text at a character of one byte and spelling it are done in any order. -/
theorem splitAt_spelled {separator : Char} (hseparator : separator.toNat ≤ 127) (text : List Char) :
    splitAt separator (spelled text) = (splitAt separator text).map spelled := by
  have hchunk (chunk rest : List Char) (hchunk : separator ∉ chunk) {piece : List Char}
      {pieces : List (List Char)} (hrest : splitAt separator rest = piece :: pieces) :
      splitAt separator (chunk ++ rest) = (chunk ++ piece) :: pieces := by
    induction chunk with
    | nil => exact hrest
    | cons c chunk ih =>
      rw [List.mem_cons, not_or] at hchunk
      rw [List.cons_append, splitAt, if_neg (Ne.symm hchunk.1), ih hchunk.2]
      rfl
  induction text with
  | nil => rfl
  | cons c text ih =>
    rw [spelled_cons, splitAt]
    by_cases hc : c = separator
    · subst hc
      rcases chars_utf8EncodeChar c with hself | ⟨hlarge, -⟩
      · rw [hself, List.singleton_append, splitAt, if_pos rfl, if_pos rfl, ih]
        rfl
      · omega
    · obtain ⟨piece, pieces, hpieces⟩ :=
        List.exists_cons_of_ne_nil (splitAt_ne_nil separator text)
      have hnone : separator ∉ chars (String.utf8EncodeChar c) := by
        intro hin
        rcases chars_utf8EncodeChar c with hself | ⟨-, hall⟩
        · rw [hself, List.mem_singleton] at hin
          exact hc hin.symm
        · have := hall separator hin
          omega
      rw [hpieces, List.map_cons] at ih
      rw [if_neg hc, hpieces, hchunk _ _ hnone ih, List.map_cons, spelled_cons]

/-- A text is read back from its bytes. -/
theorem toText_ofText (text : String) : toText (ofText text) = text := by
  have hbytes : toBytes (ofText text) = Text.encode text := by
    rw [toBytes, ofText, ofBytes, String.toList_ofList, bytesOfChars_chars]
  rw [toText, hbytes, decodeLossy_encode]

theorem ofText_injective : Function.Injective ofText :=
  Function.LeftInverse.injective toText_ofText

theorem ofText_append (first second : String) :
    ofText (first ++ second) = ofText first ++ ofText second := by
  apply String.toList_injective
  rw [String.toList_append, toList_ofText, toList_ofText, toList_ofText, String.toList_append]
  unfold spelled encodeChars chars
  rw [List.flatMap_append, List.map_append]

theorem ofText_intercalate (separator : String) (texts : List String) :
    ofText (separator.intercalate texts) = (ofText separator).intercalate (texts.map ofText) := by
  induction texts with
  | nil => rfl
  | cons text texts ih =>
    cases texts with
    | nil => rfl
    | cons next texts =>
      rw [String.intercalate_cons_cons, ofText_append, ofText_append, ih]
      exact String.intercalate_cons_cons.symm

end ByteText

end Runbook.Sandbox

/-! ### Names in a path -/

namespace Runbook.Path

open Text

/-- The names in a path, full stops among them. -/
def names (text : List Char) : List (List Char) := (splitAt '/' text).filter (· ≠ [])

theorem names_append_cons (before after : List Char) :
    names (before ++ '/' :: after) = names before ++ names after := by
  rw [names, splitAt_append_cons, List.filter_append]
  rfl

theorem names_concat (before : List Char) : names (before ++ ['/']) = names before := by
  rw [names_append_cons]
  exact List.append_nil _

theorem names_of_notMem {text : List Char} (h : '/' ∉ text) (hne : text ≠ []) :
    names text = [text] := by
  rw [names, splitAt_of_not_mem h, List.filter_cons_of_pos (by simp [hne]), List.filter_nil]

theorem names_join {base path : String} (h : isAbsolute path = false) :
    names (join base path).toList = names base.toList ++ names path.toList := by
  rw [join, if_neg (by rw [h]; exact Bool.false_ne_true)]
  split
  · next hbase =>
    rw [Bool.or_eq_true, String.isEmpty_iff, decide_eq_true_iff] at hbase
    rw [String.toList_append]
    rcases hbase with rfl | hslash
    · rfl
    · obtain ⟨before, hbefore⟩ := List.getLast?_eq_some_iff.1 hslash
      rw [hbefore, names_concat, List.append_assoc, List.singleton_append, names_append_cons]
  · rw [String.toList_append, String.toList_append, List.append_assoc]
    exact names_append_cons _ _

theorem isAbsolute_join {base path : String} (h : isAbsolute path = false) :
    isAbsolute (join base path) = isAbsolute base := by
  rw [join, if_neg (by rw [h]; exact Bool.false_ne_true)]
  by_cases hbase : base = ""
  · subst hbase
    exact h
  · have hne : base.toList ≠ [] := fun hnil ↦ hbase (String.toList_eq_nil_iff.1 hnil)
    unfold isAbsolute
    split <;> simp only [String.toList_append, List.append_assoc, List.head?_append_of_ne_nil _ hne]

/-! ### The path without its last component -/

/-- Full stops between slashes are the only names that trimming takes off. -/
theorem names_trimSpelling (fuel : Nat) (text : List Char) :
    ∃ dots, (∀ name ∈ dots, name = ['.']) ∧
      names text.reverse = names (trimSpelling fuel text).reverse ++ dots := by
  induction fuel generalizing text with
  | zero => exact ⟨[], nofun, (List.append_nil _).symm⟩
  | succ fuel ih =>
    unfold trimSpelling
    split
    · rename_i c rest
      obtain ⟨dots, hdots, hnames⟩ := ih (c :: rest)
      refine ⟨dots, hdots, ?_⟩
      rw [List.reverse_cons, names_concat, hnames]
    · rename_i rest
      obtain ⟨dots, hdots, hnames⟩ := ih ('/' :: rest)
      refine ⟨dots ++ [['.']], ?_, ?_⟩
      · rintro name hname
        rcases List.mem_append.1 hname with hname | hname
        · exact hdots name hname
        · exact List.mem_singleton.1 hname
      · have hlast : names ['.'] = [['.']] := rfl
        rw [← List.append_assoc, ← hnames, List.reverse_cons, List.reverse_cons, List.append_assoc,
          List.singleton_append, names_append_cons, names_concat, hlast]
    · exact ⟨[], nofun, (List.append_nil _).symm⟩

/-- Trimming takes something off the end. -/
theorem trimSpelling_suffix (fuel : Nat) (text : List Char) :
    trimSpelling fuel text <:+ text := by
  induction fuel generalizing text with
  | zero => exact List.suffix_refl _
  | succ fuel ih =>
    unfold trimSpelling
    split
    · exact (ih _).trans (List.suffix_cons _ _)
    · exact (ih _).trans (List.suffix_cons _ _)
    · exact List.suffix_refl _

/-- What is trimmed ends neither in a slash that is not all of it nor in a full stop after one. -/
theorem trimSpelling_ends {fuel : Nat} {text : List Char} (h : text.length ≤ fuel) {last c : Char}
    {rest : List Char} (htrimmed : trimSpelling fuel text = last :: c :: rest) :
    last ≠ '/' ∧ (last = '.' → c ≠ '/') := by
  induction fuel generalizing text with
  | zero =>
    rw [List.length_eq_zero_iff.1 (Nat.le_zero.1 h)] at htrimmed
    cases htrimmed
  | succ fuel ih =>
    unfold trimSpelling at htrimmed
    split at htrimmed
    · exact ih (Nat.le_of_succ_le_succ h) htrimmed
    · exact ih (Nat.le_of_succ_le_succ h) htrimmed
    · rename_i hslash hdot
      subst htrimmed
      refine ⟨?_, ?_⟩
      · rintro rfl
        exact hslash c rest rfl
      · rintro rfl rfl
        exact hdot rest rfl

theorem trimSpelling_ne_nil {fuel : Nat} {text : List Char} (h : text ≠ []) :
    trimSpelling fuel text ≠ [] := by
  induction fuel generalizing text with
  | zero => exact h
  | succ fuel ih =>
    unfold trimSpelling
    split
    · exact ih nofun
    · exact ih nofun
    · exact h

/-- What stands after the last slash, and the rest. Texts are given from their ends. -/
theorem exists_last_name (text : List Char) :
    ∃ name, text = name ++ text.dropWhile (· != '/') ∧ '/' ∉ name ∧
      (∀ c before, text.dropWhile (· != '/') = c :: before → c = '/') ∧
      names text.reverse = names (text.dropWhile (· != '/')).reverse ++ names name.reverse := by
  have hslash (c : Char) (before : List Char) (h : text.dropWhile (· != '/') = c :: before) :
      c = '/' := by
    have hhead := List.head?_dropWhile_not (· != '/') text
    rw [h] at hhead
    simpa using hhead
  have hname : '/' ∉ text.takeWhile (· != '/') := fun hin ↦ by
    simpa using List.all_eq_true.1 (List.all_takeWhile (l := text) (p := (· != '/'))) _ hin
  refine ⟨text.takeWhile (· != '/'), List.takeWhile_append_dropWhile.symm, hname, hslash, ?_⟩
  conv_lhs => rw [← List.takeWhile_append_dropWhile (p := (· != '/')) (l := text)]
  cases hdrop : text.dropWhile (· != '/') with
  | nil =>
    rw [List.append_nil]
    rfl
  | cons c before =>
    rw [hslash c before hdrop, List.reverse_append, List.reverse_cons, List.append_assoc,
      List.singleton_append, names_append_cons, names_concat]

theorem names_of_suffix_slash {text : List Char} (h : text <:+ ['/']) :
    names text.reverse = [] := by
  rcases List.suffix_cons_iff.1 h with rfl | hnil
  · rfl
  · rw [List.suffix_nil.1 hnil]
    rfl

theorem eq_of_parent? {path parent : String} (h : parent? path = some parent) :
    parent.toList = (trimSpelling path.length
      ((trimSpelling path.length path.toList.reverse).dropWhile (· != '/'))).reverse := by
  unfold parent? at h
  split at h
  · cases h
  · cases h
  · rw [← Option.some.inj h, String.toList_ofList]

/-- The names of a path are those of its parent and at least one more, unless that has none. -/
theorem names_parent {path parent : String} (h : parent? path = some parent) :
    ∃ rest, names path.toList = names parent.toList ++ rest ∧
      (names parent.toList ≠ [] → ∃ name ∈ rest, name ≠ ['.']) := by
  have hparent := eq_of_parent? h
  have hends (last c : Char) (rest : List Char) :
      trimSpelling path.length path.toList.reverse = last :: c :: rest →
        last ≠ '/' ∧ (last = '.' → c ≠ '/') :=
    trimSpelling_ends (Nat.le_of_eq (by rw [List.length_reverse, String.length_toList]))
  obtain ⟨dots, -, hnames⟩ := names_trimSpelling path.length path.toList.reverse
  rw [List.reverse_reverse] at hnames
  generalize trimSpelling path.length path.toList.reverse = trimmed at hparent hends hnames
  obtain ⟨name, htrimmed, hname, hslash, hsplit⟩ := exists_last_name trimmed
  obtain ⟨more, -, hbefore⟩ := names_trimSpelling path.length (trimmed.dropWhile (· != '/'))
  rw [hparent]
  refine ⟨more ++ (names name.reverse ++ dots), ?_, fun hsome ↦ ?_⟩
  · rw [hnames, hsplit, hbefore, List.append_assoc, List.append_assoc]
  have hlong : ¬trimmed.dropWhile (· != '/') <:+ ['/'] := fun hshort ↦
    hsome (names_of_suffix_slash ((trimSpelling_suffix _ _).trans hshort))
  cases hdrop : trimmed.dropWhile (· != '/') with
  | nil => exact absurd (hdrop ▸ List.nil_suffix) hlong
  | cons c before =>
    obtain rfl : c = '/' := hslash c before hdrop
    rw [hdrop] at htrimmed hlong
    have hne : name.reverse ≠ [] := by
      intro hnil
      rw [List.reverse_eq_nil_iff.1 hnil, List.nil_append] at htrimmed
      cases before with
      | nil => exact hlong (List.suffix_refl _)
      | cons d before => exact (hends '/' d before htrimmed).1 rfl
    refine ⟨name.reverse, ?_, fun hdot ↦ ?_⟩
    · rw [names_of_notMem (mt List.mem_reverse.1 hname) hne]
      exact List.mem_append_right _ List.mem_cons_self
    · rw [List.reverse_eq_iff.1 hdot] at htrimmed
      exact (hends '.' '/' before htrimmed).2 rfl rfl

/-- A path and its parent start at the same place. -/
theorem isAbsolute_parent {path parent : String} (h : parent? path = some parent) :
    isAbsolute parent = isAbsolute path := by
  have hhead {text : List Char} (hsuffix : text <:+ path.toList.reverse) (hne : text ≠ []) :
      text.reverse.head? = path.toList.head? := by
    obtain ⟨front, hfront⟩ := hsuffix
    rw [← List.reverse_reverse path.toList, ← hfront, List.reverse_append,
      List.head?_append_of_ne_nil _ (mt List.reverse_eq_nil_iff.1 hne)]
  have htrimmed : trimSpelling path.length path.toList.reverse <:+ path.toList.reverse :=
    trimSpelling_suffix _ _
  unfold isAbsolute
  rw [eq_of_parent? h]
  generalize hall : trimSpelling path.length path.toList.reverse = trimmed at htrimmed
  by_cases hbefore : trimmed.dropWhile (· != '/') = []
  · -- The parent is the empty path, and there is no slash before the last component.
    obtain ⟨name, hname, hslash, -, -⟩ := exists_last_name trimmed
    rw [hbefore, List.append_nil] at hname
    rw [hbefore, List.suffix_nil.1 (trimSpelling_suffix path.length [])]
    refine (decide_eq_false nofun).trans (decide_eq_false fun habsolute ↦ ?_).symm
    by_cases hne : trimmed = []
    · have hpath : path.toList.reverse = [] := by
        by_contra hpath
        exact trimSpelling_ne_nil hpath (hall.trans hne)
      rw [List.reverse_eq_nil_iff.1 hpath] at habsolute
      cases habsolute
    · rw [← hhead htrimmed hne] at habsolute
      exact hslash (hname ▸ List.mem_reverse.1 (List.mem_of_head? habsolute))
  · have hsuffix := (trimSpelling_suffix path.length _).trans
      ((List.dropWhile_suffix (· != '/')).trans htrimmed)
    rw [hhead hsuffix (trimSpelling_ne_nil hbefore)]

end Runbook.Path

namespace Runbook.Sandbox.FileSystem

open Runbook.Path

variable {here : NodeId} {path base parent : String}

theorem pieces_ofText (path : String) : pieces (ByteText.ofText path) =
    (names path.toList).map fun name ↦ String.ofList (ByteText.spelled name) := by
  have hplain : ∀ name : List Char, ByteText.spelled name = [] ↔ name = [] := fun name ↦
    ByteText.spelled_eq_iff nofun
  unfold pieces names
  rw [ByteText.toList_ofText, ByteText.splitAt_spelled (by decide), List.filter_map, List.map_map]
  congr 2
  funext name
  simp [hplain name]

theorem start_ofText (path : String) :
    start here (ByteText.ofText path) = if isAbsolute path then root else here := by
  have hhead : (ByteText.ofText path).toList.head? = some '/' ↔ path.toList.head? = some '/' := by
    rw [ByteText.toList_ofText]
    cases path.toList with
    | nil => exact Iff.rfl
    | cons c text =>
      rw [ByteText.spelled_cons]
      rcases ByteText.chars_utf8EncodeChar c with hc | ⟨hc, hall⟩
      · rw [hc]
        rfl
      · obtain ⟨d, rest, hd⟩ := List.exists_cons_of_ne_nil (ByteText.chars_utf8EncodeChar_ne_nil c)
        rw [hd] at hall ⊢
        have hlarge : 127 < d.toNat := hall d List.mem_cons_self
        refine iff_of_false (fun heq ↦ ?_) fun heq ↦ ?_
        · rw [Option.some.inj heq] at hlarge
          exact absurd hlarge (by decide)
        · rw [Option.some.inj heq] at hc
          exact absurd hc (by decide)
  unfold start isAbsolute
  simp only [hhead, decide_eq_true_eq]

theorem pieces_join (h : isAbsolute path = false) : pieces (ByteText.ofText (join base path)) =
    pieces (ByteText.ofText base) ++ pieces (ByteText.ofText path) := by
  rw [pieces_ofText, names_join h, List.map_append, ← pieces_ofText, ← pieces_ofText]

theorem start_join (h : isAbsolute path = false) :
    start here (ByteText.ofText (join base path)) = start here (ByteText.ofText base) := by
  rw [start_ofText, isAbsolute_join h, start_ofText]

theorem start_parent (h : parent? path = some parent) :
    start here (ByteText.ofText path) = start here (ByteText.ofText parent) := by
  rw [start_ofText, start_ofText, isAbsolute_parent h]

theorem spelled_eq_dots_iff {name : List Char} {dots : String} (hdots : isDots dots = true) :
    String.ofList (ByteText.spelled name) = dots ↔ name = dots.toList := by
  have hplain : ∀ c ∈ dots.toList, c.toNat ≤ 127 := by
    rcases Bool.or_eq_true_iff.1 hdots with h | h
    · rw [of_decide_eq_true h]
      exact List.forall_mem_singleton.2 (by decide)
    · rw [of_decide_eq_true h]
      exact List.forall_mem_cons.2 ⟨by decide, List.forall_mem_singleton.2 (by decide)⟩
  rw [← ByteText.spelled_eq_iff hplain]
  constructor
  · rintro rfl
    exact String.toList_ofList.symm
  · intro h
    rw [h, String.ofList_toList]

theorem pieces_parent (h : parent? path = some parent) :
    ∃ rest, pieces (ByteText.ofText path) = pieces (ByteText.ofText parent) ++ rest ∧
      (pieces (ByteText.ofText parent) ≠ [] → ∃ name ∈ rest, name ≠ ".") := by
  obtain ⟨rest, hrest, hmore⟩ := names_parent h
  rw [pieces_ofText, pieces_ofText, hrest, List.map_append]
  refine ⟨_, rfl, fun hsome ↦ ?_⟩
  obtain ⟨name, hin, hname⟩ := hmore fun hnone ↦ hsome (hnone ▸ rfl)
  exact ⟨_, List.mem_map_of_mem hin, mt (spelled_eq_dots_iff rfl).1 hname⟩

/-- A path does not lead up when it has no component that does. -/
theorem notMem_pieces (h : Component.parent ∉ components path) :
    ".." ∉ pieces (ByteText.ofText path) := by
  rw [pieces_ofText]
  intro hin
  obtain ⟨name, hname, hspelled⟩ := List.mem_map.1 hin
  have hdots : name = ['.', '.'] := (spelled_eq_dots_iff rfl).1 hspelled
  refine h (List.mem_append_right _ (List.mem_filterMap.2 ⟨name, List.mem_of_mem_filter hname, ?_⟩))
  rw [hdots]
  rfl

/-- A path with the name of an entry among its components has one among its names. -/
theorem exists_mem_pieces {entry : String} (h : Component.normal entry ∈ components path) :
    ∃ name ∈ pieces (ByteText.ofText path), name ≠ "." := by
  have hpiece : ∃ piece ∈ Text.splitAt '/' path.toList, Component.ofPiece? piece =
      some (.normal entry) := by
    rcases List.mem_append.1 h with hstart | hrest
    · split at hstart
      · cases List.mem_singleton.1 hstart
      · split at hstart
        · cases List.mem_singleton.1 hstart
        · cases hstart
    · exact List.mem_filterMap.1 hrest
  obtain ⟨piece, hin, hentry⟩ := hpiece
  have hne : ¬(piece = [] ∨ piece = ['.']) := by
    intro hnone
    rw [Component.ofPiece?, if_pos hnone] at hentry
    cases hentry
  rw [not_or] at hne
  rw [pieces_ofText]
  refine ⟨_, List.mem_map_of_mem (List.mem_filter.2 ⟨hin, by simp [hne.1]⟩), ?_⟩
  exact mt (spelled_eq_dots_iff rfl).1 hne.2

end Runbook.Sandbox.FileSystem
