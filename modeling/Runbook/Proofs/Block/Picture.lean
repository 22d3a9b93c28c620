import Runbook.Block.Screenshot
import Runbook.Proofs.Path.Normal
import Runbook.Proofs.Results
/-!
# Pictures that are taken

What is known of a screenshot block once its arguments and its body are accepted
(`Picture.exists_isChecked`, which is the only place where the checks are taken apart): the file
that is written is one component of a path and has the extension of a picture after a stem, and all
lengths and their sums fit in 32 bits, so that the viewport is as wide and as high as the offset and
the extent of the picture together and the part of the page that is shown lies inside of it
(`Picture.isFramed_of_parse`).
-/

set_option autoImplicit false

namespace Runbook

namespace Screenshot

/-- A picture shows something, and nothing that is outside of the viewport, unless it shows the
whole page. -/
def Capture.LiesIn : Capture → Viewport → Prop
  | .fullPage, _ => True
  | .clip x y width height, viewport =>
    0 < width ∧ 0 < height ∧ x + width ≤ viewport.width ∧ y + height ≤ viewport.height

end Screenshot

namespace Block

open Screenshot

/-! ### Plain names -/

theorem isPlain_of_plainName {field value name : String} (h : plainName field value = .ok name) :
    Path.IsPlain name := by
  unfold plainName at h
  split at h
  · next entry hentry =>
    cases h
    exact ⟨entry, hentry⟩
  · cases h

/-! ### What is checked -/

namespace Picture

variable {arguments body : String} {block : Picture}

/-- A block is made of its arguments and a body, and passes all checks. -/
structure IsChecked (given : Arguments) (body : String) (block : Picture) : Prop where
  filename : plainName "filename" ((given.text? "filename").getD "") = .ok block.filename
  stem : (stem? block.filename).getD [] ≠ []
  alt : block.alt = (given.text? "alt").getD ""
  width : wholeField given "width" 1024 = .ok block.width
  width_pos : 0 < block.width
  height : wholeField given "height" 0 = .ok block.height
  x : wholeField given "x" 0 = .ok block.x
  y : wholeField given "y" 0 = .ok block.y
  offsets : block.height = 0 → block.x = 0 ∧ block.y = 0
  right : block.x + block.width ≤ maxLength
  bottom : block.y + block.height ≤ maxLength
  retina : block.retina = given.flag "retina"
  steps : compile body = .ok block.steps

theorem le_of_checkSum_ok {offsetField extentField : String} {offset extent : Nat}
    (h : checkSum offsetField extentField offset extent = .ok ()) :
    offset + extent ≤ maxLength := by
  by_contra hover
  rw [checkSum, if_neg hover] at h
  cases h

/-- A block that is accepted has passed all checks. -/
theorem exists_isChecked (h : Picture.parse arguments body = .ok block) :
    ∃ given, Arguments.parse schema arguments = .ok given ∧ block.IsChecked given body := by
  unfold Picture.parse at h
  obtain ⟨given, hgiven, h⟩ := exists_of_bind_ok h
  obtain ⟨filename, hfilename, h⟩ := exists_of_bind_ok h
  obtain ⟨hstem, h⟩ := of_guard_ok h
  obtain ⟨width, hwidth, h⟩ := exists_of_bind_ok h
  obtain ⟨hpos, h⟩ := of_guard_ok h
  obtain ⟨height, hheight, h⟩ := exists_of_bind_ok h
  obtain ⟨x, hx, h⟩ := exists_of_bind_ok h
  obtain ⟨y, hy, h⟩ := exists_of_bind_ok h
  obtain ⟨hoffsets, h⟩ := of_guard_ok h
  obtain ⟨_, hright, h⟩ := exists_of_bind_ok h
  obtain ⟨_, hbottom, h⟩ := exists_of_bind_ok h
  obtain ⟨steps, hsteps, h⟩ := exists_of_bind_ok h
  cases h
  refine ⟨given, of_mapError_ok hgiven, ?_⟩
  exact {
    filename := of_mapError_ok hfilename
    stem := fun hnil ↦ hstem (List.isEmpty_iff.2 hnil)
    alt := rfl
    width := hwidth
    width_pos := Nat.pos_of_ne_zero hpos
    height := hheight
    x := hx
    y := hy
    offsets := fun hzero ↦ by
      by_contra hne
      exact hoffsets ⟨hzero, not_and_or.1 hne⟩
    right := le_of_checkSum_ok hright
    bottom := le_of_checkSum_ok hbottom
    retina := rfl
    steps := of_mapError_ok hsteps }

/-! ### The name of the file -/

theorem append_extension {filename : String} {stem : List Char} (h : stem? filename = some stem) :
    stem ++ extension = filename.toList := by
  unfold stem? at h
  extract_lets name found at h
  split at h
  · next hname =>
    rw [← Option.some.inj h]
    exact hname
  · cases h

/-- The file name of a picture has a stem before its extension. -/
theorem exists_stem (h : Picture.parse arguments body = .ok block) :
    ∃ stem, stem? block.filename = some stem ∧ stem ≠ [] := by
  obtain ⟨given, -, hchecked⟩ := exists_isChecked h
  have hne := hchecked.stem
  cases hstem : stem? block.filename with
  | none =>
    rw [hstem] at hne
    exact absurd rfl hne
  | some stem =>
    rw [hstem] at hne
    exact ⟨stem, rfl, hne⟩

/-- The file name of a picture is one component of a path, and it does not end in a slash, so it has
none. -/
theorem slash_notMem_filename (h : Picture.parse arguments body = .ok block) :
    '/' ∉ block.filename.toList := by
  obtain ⟨given, -, hchecked⟩ := exists_isChecked h
  obtain ⟨stem, hstem, -⟩ := exists_stem h
  have hlast : block.filename.toList = (stem ++ ['.', 'p', 'n']) ++ ['g'] := by
    rw [← append_extension hstem, List.append_assoc]
    rfl
  exact (isPlain_of_plainName hchecked.filename).slash_notMem hlast (by decide) (by decide)

/-- What the name of the file that is written ends in. -/
def suffix (block : Picture) : String := if block.retina then "@2x.png" else ".png"

/-- The name of the file that is written is a stem and the ending, without a slash. -/
theorem exists_outputName_eq (h : Picture.parse arguments body = .ok block) :
    ∃ stem, stem ≠ [] ∧ block.outputName.toList = stem ++ block.suffix.toList ∧
      '/' ∉ block.outputName.toList := by
  obtain ⟨stem, hstem, hne⟩ := exists_stem h
  have hslash := slash_notMem_filename h
  have hname := append_extension hstem
  refine ⟨stem, hne, ?_⟩
  by_cases hretina : block.retina = true
  · rw [outputName, suffix, if_pos hretina, if_pos hretina, hstem, Option.getD_some,
      String.toList_ofList, List.append_assoc]
    refine ⟨rfl, fun hmem ↦ ?_⟩
    rcases List.mem_append.1 hmem with hmem | hmem
    · exact hslash (hname ▸ List.mem_append_left _ hmem)
    · exact absurd hmem (by decide)
  · rw [outputName, suffix, if_neg hretina, if_neg hretina, ← hname]
    exact ⟨rfl, hname ▸ hslash⟩

/-- The name of the file that is written is one component of a path. -/
theorem isPlain_outputName (h : Picture.parse arguments body = .ok block) :
    Path.IsPlain block.outputName := by
  obtain ⟨stem, -, hname, hslash⟩ := exists_outputName_eq h
  obtain ⟨text, htext⟩ : ∃ text, block.suffix.toList = text ++ ['g'] := by
    unfold suffix
    split
    · exact ⟨"@2x.pn".toList, rfl⟩
    · exact ⟨".pn".toList, rfl⟩
  rw [htext, ← List.append_assoc] at hname
  exact Path.isPlain_of_slash_notMem hslash hname (by decide)

/-! ### The part of the page that is shown -/

/-- The lengths of a block go together: all of them fit in 32 bits, the viewport ends where the
picture does, and the part of the page that is shown lies inside of it, unless it is the whole
page. -/
structure IsFramed (block : Picture) : Prop where
  width_pos : 0 < block.width
  right_le : block.x + block.width ≤ 4294967295
  bottom_le : block.y + block.height ≤ 4294967295
  viewport_width : block.viewport.width = block.x + block.width
  viewport_height : block.height ≠ 0 → block.viewport.height = block.y + block.height
  fullPage_iff : block.capture = .fullPage ↔ block.height = 0
  offsets : block.height = 0 → block.x = 0 ∧ block.y = 0
  clip : block.capture.LiesIn block.viewport
  scale_iff : block.viewport.scale = 2 ↔ block.retina = true

theorem IsChecked.isFramed {given : Arguments} (h : block.IsChecked given body) :
    block.IsFramed := by
  have hwidth : block.viewport.width = block.x + block.width := Nat.min_eq_left h.right
  have hheight (hne : block.height ≠ 0) : block.viewport.height = block.y + block.height := by
    rw [viewport, if_neg hne]
    exact Nat.min_eq_left h.bottom
  refine {
    width_pos := h.width_pos
    right_le := h.right
    bottom_le := h.bottom
    viewport_width := hwidth
    viewport_height := hheight
    fullPage_iff := ?_
    offsets := h.offsets
    clip := ?_
    scale_iff := ?_ }
  · by_cases hzero : block.height = 0 <;> simp [capture, hzero]
  · by_cases hzero : block.height = 0
    · rw [capture, if_pos hzero]
      trivial
    · rw [capture, if_neg hzero]
      exact ⟨h.width_pos, Nat.pos_of_ne_zero hzero, hwidth.ge, (hheight hzero).ge⟩
  · by_cases hretina : block.retina = true <;> simp [viewport, hretina]

/-- The lengths of a block that is accepted go together, and the file that is written is a picture
with a stem, in no directory. -/
theorem isFramed_of_parse (h : Picture.parse arguments body = .ok block) :
    block.IsFramed ∧ ∃ stem, stem ≠ [] ∧ block.outputName.toList = stem ++ block.suffix.toList ∧
      '/' ∉ block.outputName.toList := by
  obtain ⟨given, -, hchecked⟩ := exists_isChecked h
  exact ⟨hchecked.isFramed, exists_outputName_eq h⟩

/-- A block whose picture ends at the greatest length on both sides is accepted. -/
theorem isFramed_of_parse_greatest :
    ∃ block, Picture.parse "filename=.a.png alt=x x=4294967294 width=1 height=4294967295 retina"
        "visit http://x\n" = .ok block ∧
      block.viewport = ⟨4294967295, 4294967295, 2⟩ ∧
      block.capture = .clip 4294967294 0 1 4294967295 ∧ block.outputName = ".a@2x.png" ∧
      block.IsFramed := by
  have hevaluated : (Picture.parse
      "filename=.a.png alt=x x=4294967294 width=1 height=4294967295 retina"
      "visit http://x\n").toOption.map (fun block ↦
        (block.viewport, block.capture, block.outputName)) =
      some (⟨4294967295, 4294967295, 2⟩, .clip 4294967294 0 1 4294967295, ".a@2x.png") := by
    decide +kernel
  obtain ⟨block, hblock, hshown⟩ := exists_of_toOption_map hevaluated
  obtain ⟨hviewport, hrest⟩ := Prod.mk.inj hshown
  obtain ⟨hcapture, hname⟩ := Prod.mk.inj hrest
  exact ⟨block, hblock, hviewport, hcapture, hname, (isFramed_of_parse hblock).1⟩

end Picture

end Block

end Runbook
