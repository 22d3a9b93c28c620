import Runbook.Proofs.Document.Indentation
import Runbook.Proofs.Markdown.InlineImage
import Runbook.Proofs.Session.Assets
import Runbook.Session.Screenshot
/-!
# Images as they are read

What a screenshot block shows is an image, written with the square brackets of its alternative text
escaped and with its address as it is. A reader of Markdown takes a backslash for an escape as well,
and it takes an address only up to a space or the parenthesis that closes it. So the text is not
always one image with that alternative text and that address: `picture_not_readsBack`.

`pictureNode_readsBack_iff` says when it is. The alternative text must be `ReadableAlt`: each of its
backslashes comes before a character that it cannot escape or before a bracket, none is at its end,
and the brackets after backslashes are balanced. The address must be a `Destination`.
-/

set_option autoImplicit false

namespace Runbook.Session

open Block Document Markdown

/-! ### What can be read back -/

/-- A square bracket. -/
def isBracket (c : Char) : Bool := c == '[' || c == ']'

/-- An alternative text that can be read from what is written for it. -/
structure ReadableAlt (alt : List Char) : Prop where
  /-- Each backslash comes before a bracket or before a character that it cannot escape. -/
  keeps : LosesNone isBracket alt
  ends : alt.getLast? ≠ some '\\'
  /-- The brackets that come after backslashes are not escaped. -/
  balanced : Balanced '[' ']' 0 (exposed isBracket false alt)

/-- A text that can be read as an address without angle brackets, and as itself. -/
structure Destination (address : List Char) : Prop where
  starts : address.head? ≠ some '<'
  solid : ∀ c ∈ address, isSpaceOrControl c = false
  /-- No backslash comes before a character that it can escape. -/
  keeps : LosesNone (fun _ ↦ false) address
  balanced : Balanced '(' ')' 0 address

/-- A text is read as one image. Its label goes up to the bracket that was written after the
alternative text, and the label and the destination are the alternative text and the address when
their escapes are resolved. -/
def ReadsBack (text address alt : String) : Prop :=
  readImage? text.toList = some (escapeAlt alt.toList, address.toList) ∧
    resolveEscapes (escapeAlt alt.toList) = alt.toList ∧
    resolveEscapes address.toList = address.toList

instance (text address alt : String) : Decidable (ReadsBack text address alt) :=
  inferInstanceAs (Decidable (_ ∧ _ ∧ _))

/-! ### Labels and destinations -/

theorem escapeAlt_eq_escapeMarks (alt : List Char) : escapeAlt alt = escapeMarks isBracket alt := by
  unfold escapeAlt escapeMarks isBracket
  simp only [Bool.or_eq_true, beq_iff_eq]

theorem isPunctuation_of_isBracket (c : Char) (h : isBracket c = true) :
    isPunctuation c = true ∧ c ≠ '\\' := by
  rcases Bool.or_eq_true_iff.1 h with h | h
  · rw [beq_iff_eq.1 h]
    decide
  · rw [beq_iff_eq.1 h]
    decide

theorem escapeMarks_none (text : List Char) : escapeMarks (fun _ ↦ false) text = text := by
  induction text with
  | nil => rfl
  | cons c text ih => rw [escapeMarks_cons_other rfl, ih]

theorem exposed_none (afterBackslash : Bool) (text : List Char) :
    exposed (fun _ ↦ false) afterBackslash text = text := by
  induction text generalizing afterBackslash with
  | nil => rfl
  | cons c text ih => exact congrArg (c :: ·) (ih _)

/-- The label that is written for an alternative text is read up to its end and as that text exactly
when the text is readable. -/
theorem readLabel_iff (alt after : List Char) :
    (splitAtClosing? '[' ']' (fun _ ↦ false) false 0 (escapeAlt alt ++ ']' :: after) =
          some (escapeAlt alt, after) ∧
        resolveEscapes (escapeAlt alt) = alt) ↔ ReadableAlt alt := by
  rw [escapeAlt_eq_escapeMarks, splitAtClosing?_escapeMarks_iff isPunctuation_of_isBracket
    (by decide) (by decide) (by decide) rfl rfl]
  exact ⟨fun ⟨hkeeps, hends, _, hbalanced⟩ ↦ ⟨hkeeps, hends, hbalanced⟩,
    fun ⟨hkeeps, hends, hbalanced⟩ ↦ ⟨hkeeps, hends, fun _ _ ↦ rfl, hbalanced⟩⟩

/-- An address in parentheses is read up to its end and as itself exactly when it is a destination.
Assumes: it does not end in a backslash. -/
theorem readDestination_iff {address : List Char} (hends : address.getLast? ≠ some '\\') :
    (address.head? ≠ some '<' ∧
        splitAtClosing? '(' ')' isSpaceOrControl false 0 (address ++ [')']) = some (address, []) ∧
        resolveEscapes address = address) ↔ Destination address := by
  have hread : (splitAtClosing? '(' ')' isSpaceOrControl false 0
        (escapeMarks (fun _ ↦ false) address ++ [')']) =
          some (escapeMarks (fun _ ↦ false) address, []) ∧
      resolveEscapes (escapeMarks (fun _ ↦ false) address) = address) ↔ _ :=
    splitAtClosing?_escapeMarks_iff (fun _ h ↦ absurd h Bool.false_ne_true) (by decide)
      (by decide) (by decide) (by decide) (by decide) address []
  rw [escapeMarks_none, exposed_none] at hread
  rw [hread]
  exact ⟨fun ⟨hstarts, hkeeps, _, hsolid, hbalanced⟩ ↦ ⟨hstarts, hsolid, hkeeps, hbalanced⟩,
    fun ⟨hstarts, hsolid, hkeeps, hbalanced⟩ ↦ ⟨hstarts, hkeeps, hends, hsolid, hbalanced⟩⟩

/-- An image is read back exactly when its alternative text is readable and its address is a
destination. Assumes: the address does not end in a backslash. -/
theorem image_readsBack_iff {address alt : String} (hends : address.toList.getLast? ≠ some '\\') :
    ReadsBack (Node.image address alt).render address alt ↔
      ReadableAlt alt.toList ∧ Destination address.toList := by
  have htext : (Node.image address alt).render.toList =
      "![".toList ++ escapeAlt alt.toList ++ "](".toList ++ address.toList ++ [')'] := by
    change (String.ofList (indentContinuation [] _)).toList = _
    rw [String.toList_ofList, indentContinuation_nil]
    rfl
  rw [ReadsBack, htext, readImage?_eq_some_iff, ← readLabel_iff alt.toList
    ('(' :: (address.toList ++ [')'])), ← readDestination_iff hends]
  constructor
  · rintro ⟨⟨hlabel, hhead, hdestination⟩, halt, haddress⟩
    exact ⟨⟨hlabel, halt⟩, hhead, hdestination, haddress⟩
  · rintro ⟨⟨hlabel, halt⟩, hhead, hdestination, haddress⟩
    exact ⟨⟨hlabel, hhead, hdestination⟩, halt, haddress⟩

/-! ### What screenshot blocks show -/

/-- The address of a picture ends as its file name does. Assumes: the block has been accepted. -/
theorem getLast?_pictureUrl {arguments body : String} {block : Picture}
    (h : Picture.parse arguments body = .ok block) (base basename : String) :
    (pictureUrl base basename block.filename).toList.getLast? = some 'g' := by
  obtain ⟨stem, hstem, -⟩ := Picture.exists_stem h
  rw [pictureUrl, String.toList_append, ← Picture.append_extension hstem, ← List.append_assoc,
    List.getLast?_append]
  rfl

/-- When the image that a screenshot block shows is read back: exactly when the alternative text of
the block is readable and the address of the picture is a destination. Assumes: the block has been
accepted and shows an image. -/
theorem pictureNode_readsBack_iff {arguments body : String} {block : Picture}
    (hblock : Picture.parse arguments body = .ok block) (himage : block.retina = false)
    (base basename target : String) (width height : Nat) :
    let address := pictureUrl base basename block.outputName
    ReadsBack (pictureNode block address target width height).render address block.alt ↔
      ReadableAlt block.alt.toList ∧ Destination address.toList := by
  intro address
  have hname : block.outputName = block.filename := by
    rw [Picture.outputName, himage, if_neg Bool.false_ne_true]
  have hends : address.toList.getLast? ≠ some '\\' := by
    unfold address
    rw [hname, getLast?_pictureUrl hblock]
    decide
  have hshown : (pictureNode block address target width height).render =
      (Node.image address block.alt).render := by
    rw [pictureNode, himage, if_neg Bool.false_ne_true]
    rfl
  rw [hshown]
  exact image_readsBack_iff hends

/-- An alternative text with brackets that are escaped already and with others can be read back, and
so can an address with parentheses. -/
theorem pictureNode_readsBack_parentheses :
    ∃ block, Picture.parse "filename=a(1).png alt=\"the \\\\[x\\\\] [y]\""
        "visit http://x\n" = .ok block ∧
      block.retina = false ∧
      let address := pictureUrl "/screenshots" "intro" block.outputName
      (pictureNode block address "a(1).png" 1 1).render =
        "![the \\\\[x\\\\] \\[y\\]](/screenshots/intro/a(1).png)" ∧
      ReadableAlt block.alt.toList ∧ Destination address.toList := by
  have hevaluated : (Picture.parse "filename=a(1).png alt=\"the \\\\[x\\\\] [y]\""
      "visit http://x\n").toOption.map (fun block ↦
        let address := pictureUrl "/screenshots" "intro" block.outputName
        let text := (pictureNode block address "a(1).png" 1 1).render
        (block.retina, text, decide (ReadsBack text address block.alt))) =
      some (false, "![the \\\\[x\\\\] \\[y\\]](/screenshots/intro/a(1).png)", true) := by
    decide +kernel
  obtain ⟨block, hblock, hshown⟩ := exists_of_toOption_map hevaluated
  obtain ⟨himage, hrest⟩ := Prod.mk.inj hshown
  obtain ⟨htext, hreads⟩ := Prod.mk.inj hrest
  have hiff := pictureNode_readsBack_iff hblock himage "/screenshots" "intro" "a(1).png" 1 1
  exact ⟨block, hblock, himage, htext, hiff.1 (of_decide_eq_true hreads)⟩

/-- The images of two accepted blocks are not read back: an alternative text that ends in a
backslash escapes the bracket after it, and the address of a file name with a space ends at the
space. -/
theorem picture_not_readsBack :
    (∃ block, Picture.parse "filename=a.png alt=a\\" "visit http://x\n" = .ok block ∧
      let address := pictureUrl "/screenshots" "intro" block.outputName
      ¬ReadsBack (pictureNode block address "a.png" 1 1).render address block.alt) ∧
    ∃ block, Picture.parse "filename=\"a b.png\" alt=a" "visit http://x\n" = .ok block ∧
      let address := pictureUrl "/screenshots" "intro" block.outputName
      ¬ReadsBack (pictureNode block address "a b.png" 1 1).render address block.alt := by
  constructor
  · have hevaluated : (Picture.parse "filename=a.png alt=a\\" "visit http://x\n").toOption.map
        (fun block ↦
          let address := pictureUrl "/screenshots" "intro" block.outputName
          decide (ReadsBack (pictureNode block address "a.png" 1 1).render address block.alt)) =
        some false := by decide +kernel
    obtain ⟨block, hblock, hreads⟩ := exists_of_toOption_map hevaluated
    exact ⟨block, hblock, of_decide_eq_false hreads⟩
  · have hevaluated : (Picture.parse "filename=\"a b.png\" alt=a" "visit http://x\n").toOption.map
        (fun block ↦
          let address := pictureUrl "/screenshots" "intro" block.outputName
          decide (ReadsBack (pictureNode block address "a b.png" 1 1).render address block.alt)) =
        some false := by decide +kernel
    obtain ⟨block, hblock, hreads⟩ := exists_of_toOption_map hevaluated
    exact ⟨block, hblock, of_decide_eq_false hreads⟩

end Runbook.Session
