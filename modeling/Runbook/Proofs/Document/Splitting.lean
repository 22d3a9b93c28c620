import Runbook.Proofs.Document.Tiling
/-!
# Where the content of a source starts

A source opens a block of settings when it starts with the marker and a line ending (`Opens`), and a
line closes the block when it is the marker and blanks (`Closes`). Both are said of the source as it
is written and not through the functions that cut it. `Encloses` lays out the lines of a source with
a closed block: the opening line, lines that do not close it, the first one that does, and the
content.

`split_eq_absent_iff`, `split_eq_unclosed_iff` and `split_eq_block_iff` say of each outcome which
sources have it. The content is made of the last lines of the source, so the bytes before it end
where a line ends (`isLineStart_of_append`): every place in the content moves by their number, and
lands between two characters whatever stands in the settings. `read_exact` puts this together.
-/

set_option autoImplicit false

namespace Runbook.Document

open Text

/-! ### The place of a suffix -/

/-- A place of a source, counted in bytes, at which a line starts or the source ends: it stands
between two characters, and what is before it is a number of whole lines. -/
def IsLineStart (source : String) (place : String.Pos.Raw) : Prop :=
  place.IsValid source ∧
    ∃ count, place.byteIdx = byteLength ((terminated source.toList).take count).flatten

/-- The place at which a suffix of a source starts, from the lengths of the two alone. -/
def placeOf (source : String) (content : List Char) : String.Pos.Raw :=
  ⟨source.utf8ByteSize - byteLength content⟩

theorem placeOf_append (front content : List Char) :
    placeOf (String.ofList (front ++ content)) content = ⟨byteLength front⟩ := by
  have hsize : (String.ofList (front ++ content)).utf8ByteSize =
      byteLength front + byteLength content := by
    rw [String.ofList_append, String.utf8ByteSize_append, byteLength_eq, byteLength_eq]
  rw [placeOf, hsize, Nat.add_sub_cancel]

/-- The place after some of the lines of a source is the start of a line. -/
theorem isLineStart_of_append {source : String} {front content : List (List Char)}
    (h : terminated source.toList = front ++ content) :
    IsLineStart source ⟨byteLength front.flatten⟩ := by
  have hsource : source = String.ofList front.flatten ++ String.ofList content.flatten := by
    rw [← String.ofList_append, ← List.flatten_append, ← h, flatten_terminated,
      String.ofList_toList]
  constructor
  · refine String.Pos.Raw.isValid_iff_exists_append.2 ⟨_, _, hsource, ?_⟩
    rw [byteLength_eq]
    rfl
  · exact ⟨front.length, by rw [h, List.take_left]⟩

namespace Frontmatter

/-! ### The markers of a block -/

/-- The texts that open a block of settings. -/
def openings : List (List Char) := [marker ++ ['\n'], marker ++ ['\r', '\n']]

/-- A source opens a block of settings. -/
def Opens (source : List Char) : Prop := ∃ opening ∈ openings, opening <+: source

/-- A line closes a block of settings: nothing but blanks comes after the marker. -/
def Closes (line : List Char) : Prop :=
  ∃ blanks, line = marker ++ blanks ∧ ∀ c ∈ blanks, isBlank c = true

theorem afterOpening?_eq_some_iff {source rest : List Char} :
    afterOpening? source = some rest ↔ ∃ opening ∈ openings, source = opening ++ rest := by
  constructor
  · intro h
    unfold afterOpening? at h
    split at h
    · exact ⟨['-', '-', '-', '\n'], by simp [openings, marker], by simpa using h⟩
    · exact ⟨['-', '-', '-', '\r', '\n'], by simp [openings, marker], by simpa using h⟩
    · cases h
  · rintro ⟨opening, hopening, rfl⟩
    rcases List.mem_pair.1 hopening with rfl | rfl <;> rfl

theorem afterOpening?_eq_none_iff {source : List Char} :
    afterOpening? source = none ↔ ¬Opens source := by
  constructor
  · rintro hnone ⟨opening, hopening, rest, rfl⟩
    rw [afterOpening?_eq_some_iff.2 ⟨opening, hopening, rfl⟩] at hnone
    cases hnone
  · intro hopens
    refine Option.eq_none_iff_forall_ne_some.2 fun rest hrest ↦ hopens ?_
    obtain ⟨opening, hopening, hsource⟩ := afterOpening?_eq_some_iff.1 hrest
    exact ⟨opening, hopening, rest, hsource.symm⟩

/-- An opening is the first line of a source that starts with it. -/
theorem terminated_opening {opening : List Char} (h : opening ∈ openings) (rest : List Char) :
    terminated (opening ++ rest) = opening :: terminated rest := by
  rcases List.mem_pair.1 h with rfl | rfl
  · exact @terminated_append marker (by decide) rest
  · exact @terminated_append (marker ++ ['\r']) (by decide) rest

theorem isClosing_iff {line : List Char} : isClosing line = true ↔ Closes line := by
  rw [isClosing, beq_iff_eq]
  constructor
  · intro hkept
    refine ⟨line.rtakeWhile isBlank, ?_, fun c hc ↦ List.mem_rtakeWhile_imp hc⟩
    rw [← hkept]
    exact (List.rdropWhile_append_rtakeWhile).symm
  · rintro ⟨blanks, rfl, hblanks⟩
    rw [dropTrailing, List.reverse_append,
      List.dropWhile_append_of_pos fun c hc ↦ hblanks c (List.mem_reverse.1 hc)]
    decide

theorem splitAtClosing_eq_none_iff {lines : List (List Char)} :
    splitAtClosing lines = none ↔ ∀ line ∈ lines, ¬Closes line := by
  induction lines with
  | nil => simp [splitAtClosing]
  | cons line rest ih =>
    rw [splitAtClosing, List.forall_mem_cons, ← isClosing_iff, ← ih]
    cases isClosing line <;> simp

/-- The lines are cut at the first one that closes the block. -/
theorem splitAtClosing_eq_some_iff {lines before after : List (List Char)} :
    splitAtClosing lines = some (before, after) ↔
      (∀ line ∈ before, ¬Closes line) ∧ ∃ closing, Closes closing ∧
        lines = before ++ closing :: after := by
  induction lines generalizing before with
  | nil => simp [splitAtClosing]
  | cons line rest ih =>
    rw [splitAtClosing]
    split
    · next hclosing =>
      constructor
      · intro h
        cases h
        exact ⟨by simp, line, isClosing_iff.1 hclosing, rfl⟩
      · rintro ⟨hbefore, closing, -, hlines⟩
        cases before with
        | nil =>
          cases hlines
          rfl
        | cons first before =>
          cases hlines
          exact absurd (isClosing_iff.1 hclosing) (hbefore line List.mem_cons_self)
    · next hclosing =>
      constructor
      · intro h
        obtain ⟨⟨settings, content⟩, hrest, heq⟩ := Option.map_eq_some_iff.1 h
        cases heq
        obtain ⟨hsettings, closing, hcloses, hlines⟩ := ih.1 hrest
        refine ⟨List.forall_mem_cons.2 ⟨fun h ↦ hclosing (isClosing_iff.2 h), hsettings⟩,
          closing, hcloses, ?_⟩
        rw [hlines, List.cons_append]
      · rintro ⟨hbefore, closing, hcloses, hlines⟩
        cases before with
        | nil =>
          cases hlines
          exact absurd (isClosing_iff.2 hcloses) hclosing
        | cons first before =>
          obtain ⟨rfl, hrest⟩ := List.cons.inj hlines
          rw [ih.2 ⟨fun other hother ↦ hbefore other (List.mem_cons_of_mem _ hother), closing,
            hcloses, hrest⟩]
          rfl

/-! ### The lines around a block -/

/-- The lines of a source with a closed block of settings. -/
structure Layout where
  opening : List Char
  settings : List (List Char)
  closing : List Char
  content : List (List Char)

/-- What stands before the content. -/
def Layout.front (layout : Layout) : List (List Char) :=
  layout.opening :: layout.settings ++ [layout.closing]

/-- A source has its lines laid out as a block of settings, which ends with the first line after
the opening one that closes it, and content. -/
structure Encloses (source : List Char) (layout : Layout) : Prop where
  lines : terminated source = layout.front ++ layout.content
  opens : layout.opening ∈ openings
  spares : ∀ line ∈ layout.settings, ¬Closes line
  closes : Closes layout.closing

variable {source : List Char} {layout : Layout}

/-- The text of a source with a block, without its first line. -/
theorem Encloses.eq_append (h : Encloses source layout) :
    source = layout.opening ++
      (layout.settings ++ layout.closing :: layout.content).flatten := by
  rw [← flatten_terminated source, h.lines]
  simp [Layout.front]

theorem Encloses.afterOpening?_eq (h : Encloses source layout) :
    ∃ rest, afterOpening? source = some rest ∧
      terminated rest = layout.settings ++ layout.closing :: layout.content := by
  obtain ⟨rest, hsource⟩ : ∃ rest, source = layout.opening ++ rest := ⟨_, h.eq_append⟩
  refine ⟨rest, afterOpening?_eq_some_iff.2 ⟨_, h.opens, hsource⟩, ?_⟩
  have hlines : layout.opening :: terminated rest = layout.front ++ layout.content := by
    rw [← terminated_opening h.opens, ← hsource, h.lines]
  rw [(List.cons.inj hlines).2]
  simp

/-- Nothing is cut off from the sources that open no block. -/
theorem split_eq_absent_iff : split source = .absent ↔ ¬Opens source := by
  rw [← afterOpening?_eq_none_iff, split]
  cases afterOpening? source with
  | none => simp
  | some rest =>
    dsimp only
    cases splitAtClosing (terminated rest) <;> simp

theorem split_eq_unclosed_iff :
    split source = .unclosed ↔
      Opens source ∧ ∀ line ∈ (terminated source).tail, ¬Closes line := by
  rw [split]
  cases hafter : afterOpening? source with
  | none => simp [afterOpening?_eq_none_iff.1 hafter]
  | some rest =>
    obtain ⟨opening, hopening, rfl⟩ := afterOpening?_eq_some_iff.1 hafter
    have hopens : Opens (opening ++ rest) := ⟨opening, hopening, List.prefix_append _ _⟩
    rw [terminated_opening hopening, List.tail_cons, ← splitAtClosing_eq_none_iff]
    dsimp only
    cases splitAtClosing (terminated rest) <;> simp [hopens]

theorem split_eq_block_iff {settings content : List Char} :
    split source = .block settings content ↔ ∃ layout, Encloses source layout ∧
      settings = layout.settings.flatten ∧ content = layout.content.flatten := by
  constructor
  · intro h
    rw [split] at h
    cases hafter : afterOpening? source with
    | none =>
      rw [hafter] at h
      cases h
    | some rest =>
      obtain ⟨opening, hopening, hsource⟩ := afterOpening?_eq_some_iff.1 hafter
      rw [hafter] at h
      cases hcut : splitAtClosing (terminated rest) with
      | none => simp [hcut] at h
      | some parts =>
        obtain ⟨before, after⟩ := parts
        simp only [hcut] at h
        cases h
        obtain ⟨hbefore, closing, hcloses, hrest⟩ := splitAtClosing_eq_some_iff.1 hcut
        refine ⟨⟨opening, before, closing, after⟩, ⟨?_, hopening, hbefore, hcloses⟩, rfl, rfl⟩
        rw [hsource, terminated_opening hopening, hrest]
        simp [Layout.front]
  · rintro ⟨layout, h, rfl, rfl⟩
    obtain ⟨rest, hafter, hrest⟩ := h.afterOpening?_eq
    have hcut : splitAtClosing (terminated rest) = some (layout.settings, layout.content) :=
      splitAtClosing_eq_some_iff.2 ⟨h.spares, layout.closing, h.closes, hrest⟩
    simp only [split, hafter, hcut]

/-! ### What is read -/

variable {content : List Char}

theorem read_absent_iff : read source = .ok (none, content) ↔ ¬Opens source ∧ content = source := by
  rw [← split_eq_absent_iff, read]
  cases split source with
  | absent => simp [eq_comm]
  | unclosed => simp
  | block settings rest =>
    dsimp only
    cases ofSettings? settings <;> simp

theorem read_unclosed_iff :
    read source = .error .unclosed ↔
      Opens source ∧ ∀ line ∈ (terminated source).tail, ¬Closes line := by
  rw [← split_eq_unclosed_iff, read]
  cases split source with
  | absent => simp
  | unclosed => simp
  | block settings rest =>
    dsimp only
    cases ofSettings? settings <;> simp

theorem read_settings_iff {settings : Frontmatter} :
    read source = .ok (some settings, content) ↔ ∃ layout, Encloses source layout ∧
      ofSettings? layout.settings.flatten = some settings ∧ content = layout.content.flatten := by
  have hblock : read source = .ok (some settings, content) ↔
      ∃ written, split source = .block written content ∧ ofSettings? written = some settings := by
    rw [read]
    cases split source with
    | absent => simp
    | unclosed => simp
    | block written rest =>
      dsimp only
      cases hread : ofSettings? written <;> simp [hread, and_comm]
  rw [hblock]
  constructor
  · rintro ⟨written, hsplit, hsettings⟩
    obtain ⟨layout, h, rfl, rfl⟩ := split_eq_block_iff.1 hsplit
    exact ⟨layout, h, hsettings, rfl⟩
  · rintro ⟨layout, h, hsettings, rfl⟩
    exact ⟨_, split_eq_block_iff.2 ⟨layout, h, rfl, rfl⟩, hsettings⟩

theorem read_invalid_iff :
    read source = .error .invalidYaml ↔
      ∃ layout, Encloses source layout ∧ ofSettings? layout.settings.flatten = none := by
  have hblock : read source = .error .invalidYaml ↔
      ∃ written rest, split source = .block written rest ∧ ofSettings? written = none := by
    rw [read]
    cases split source with
    | absent => simp
    | unclosed => simp
    | block written rest =>
      dsimp only
      cases hread : ofSettings? written <;> simp [hread]
  rw [hblock]
  constructor
  · rintro ⟨written, rest, hsplit, hsettings⟩
    obtain ⟨layout, h, rfl, rfl⟩ := split_eq_block_iff.1 hsplit
    exact ⟨layout, h, hsettings⟩
  · rintro ⟨layout, h, hsettings⟩
    exact ⟨_, _, split_eq_block_iff.2 ⟨layout, h, rfl, rfl⟩, hsettings⟩

/-- The content that is read is the last lines of the source. -/
theorem read_lines {settings : Option Frontmatter} (h : read source = .ok (settings, content)) :
    ∃ front rest, terminated source = front ++ rest ∧ content = rest.flatten := by
  cases settings with
  | none =>
    obtain ⟨-, rfl⟩ := read_absent_iff.1 h
    exact ⟨[], terminated content, rfl, (flatten_terminated content).symm⟩
  | some settings =>
    obtain ⟨layout, hlayout, -, hcontent⟩ := read_settings_iff.1 h
    exact ⟨layout.front, layout.content, hlayout.lines, hcontent⟩

/-- Reading a source is exact. It finds no settings and gives the whole source exactly when the
source opens no block, and it finds an unclosed block exactly when the source opens one and no later
line closes it. Otherwise the lines before the first closing line are read as the settings, and the
content is what comes right after that line. In each case the content starts at the place that the
lengths of the source and of the content give: a line starts there, and what is before the place
with the content after it is the source. -/
theorem read_exact (source : String) :
    (∀ content, read source.toList = .ok (none, content) ↔
      ¬Opens source.toList ∧ content = source.toList) ∧
    (read source.toList = .error .unclosed ↔
      Opens source.toList ∧ ∀ line ∈ (terminated source.toList).tail, ¬Closes line) ∧
    (∀ settings content, read source.toList = .ok (some settings, content) ↔
      ∃ layout, Encloses source.toList layout ∧
        ofSettings? layout.settings.flatten = some settings ∧ content = layout.content.flatten) ∧
    (read source.toList = .error .invalidYaml ↔
      ∃ layout, Encloses source.toList layout ∧ ofSettings? layout.settings.flatten = none) ∧
    ∀ settings content, read source.toList = .ok (settings, content) →
      IsLineStart source (placeOf source content) ∧
        ∃ before, byteLength before = (placeOf source content).byteIdx ∧
          before ++ content = source.toList := by
  refine ⟨fun _ ↦ read_absent_iff, read_unclosed_iff, fun _ _ ↦ read_settings_iff,
    read_invalid_iff, fun settings content hread ↦ ?_⟩
  obtain ⟨front, rest, hlines, rfl⟩ := read_lines hread
  have hsource : front.flatten ++ rest.flatten = source.toList := by
    rw [← List.flatten_append, ← hlines, flatten_terminated]
  have hplace : placeOf source rest.flatten = ⟨byteLength front.flatten⟩ := by
    rw [← placeOf_append front.flatten rest.flatten, hsource, String.ofList_toList]
  rw [hplace]
  exact ⟨isLineStart_of_append hlines, front.flatten, rfl, hsource⟩

/-- A block with other line endings, a character of two bytes and blanks after its closing marker:
the content starts at the byte 22. -/
theorem read_exact_blanks :
    let source := "---\r\ntitle: é\r\n---\t \nText"
    read source.toList = .ok (some { Frontmatter.default with title := some "é" }, "Text".toList) ∧
      IsLineStart source (placeOf source "Text".toList) ∧
      (placeOf source "Text".toList).byteIdx = 22 := by
  intro source
  have hread : read source.toList =
      .ok (some { Frontmatter.default with title := some "é" }, "Text".toList) := by decide +kernel
  exact ⟨hread, ((read_exact source).2.2.2.2 _ _ hread).1, by decide +kernel⟩

end Frontmatter

end Runbook.Document
