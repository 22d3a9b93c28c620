import Runbook.Document.Parse
import Runbook.Proofs.Document.Indentation
import Runbook.Proofs.Document.InfoString
import Runbook.Proofs.Markdown.FenceLines
/-!
# Code blocks are read back

A code block that is written has a fence that is longer than every run of backticks in its body. No
line of the body can close it then, so the document that is read from the text has the block and
nothing else but the newline after it, and the block has the body, with a newline at its end unless
it is empty (`parse_render_code`).

The length of the fence comes from one pass over the body. `length_le_longestBacktickRun` says that
no run escapes it, and the newline that is added to the body adds no run
(`longestBacktickRun_closeLine`).
-/

set_option autoImplicit false

namespace Runbook.Document

open Markdown Text

/-! ### Runs of backticks -/

/-- The run that stands before a text counts. -/
theorem le_longestBacktickRun (run : Nat) (text : List Char) :
    run ≤ longestBacktickRun run text := by
  induction text generalizing run with
  | nil => exact Nat.le_refl run
  | cons c text ih =>
    rw [longestBacktickRun]
    split
    · exact (Nat.le_succ run).trans (ih (run + 1))
    · exact Nat.le_max_left _ _

/-- A longer run before a text gives no shorter one. -/
theorem longestBacktickRun_mono {run more : Nat} (h : run ≤ more) (text : List Char) :
    longestBacktickRun run text ≤ longestBacktickRun more text := by
  induction text generalizing run more with
  | nil => exact h
  | cons c text ih =>
    rw [longestBacktickRun, longestBacktickRun]
    split
    · exact ih (Nat.succ_le_succ h)
    · exact Nat.max_le_of_le_of_le (h.trans (Nat.le_max_left _ _)) (Nat.le_max_right _ _)

/-- A run at the start of a text lengthens the one before it. -/
theorem longestBacktickRun_replicate_append (run length : Nat) (text : List Char) :
    longestBacktickRun run (List.replicate length '`' ++ text) =
      longestBacktickRun (run + length) text := by
  induction length generalizing run with
  | zero => rfl
  | succ length ih =>
    rw [List.replicate_succ, List.cons_append, longestBacktickRun, if_pos rfl, ih, Nat.add_assoc,
      Nat.add_comm 1]

/-- The runs of a text are among those of a text that ends in it. -/
theorem longestBacktickRun_le_append (run : Nat) (before text : List Char) :
    longestBacktickRun 0 text ≤ longestBacktickRun run (before ++ text) := by
  induction before generalizing run with
  | nil => exact longestBacktickRun_mono (Nat.zero_le run) text
  | cons c before ih =>
    rw [List.cons_append, longestBacktickRun]
    split
    · exact ih (run + 1)
    · exact (ih 0).trans (Nat.le_max_right _ _)

/-- No run of backticks in a text is longer than the longest one. -/
theorem length_le_longestBacktickRun {length : Nat} {text : List Char}
    (h : List.replicate length '`' <:+: text) : length ≤ longestBacktickRun 0 text := by
  obtain ⟨before, after, rfl⟩ := h
  rw [List.append_assoc]
  refine Nat.le_trans ?_ (longestBacktickRun_le_append 0 before _)
  rw [longestBacktickRun_replicate_append, Nat.zero_add]
  exact le_longestBacktickRun length after

theorem longestBacktickRun_append_newline (run : Nat) (text : List Char) :
    longestBacktickRun run (text ++ ['\n']) = longestBacktickRun run text := by
  induction text generalizing run with
  | nil => exact Nat.max_eq_left (Nat.zero_le run)
  | cons c text ih => rw [List.cons_append, longestBacktickRun, longestBacktickRun, ih, ih]

/-! ### The body as it is written -/

section Body

variable {body : List Char}

theorem longestBacktickRun_closeLine (body : List Char) :
    longestBacktickRun 0 (closeLine body) = longestBacktickRun 0 body := by
  unfold closeLine
  split
  · rfl
  · exact longestBacktickRun_append_newline 0 body

/-- The fence for a body does not occur in it as it is written. -/
theorem fence_not_infix_closeLine (body : List Char) :
    ¬List.replicate (fenceLength body) '`' <:+: closeLine body := by
  intro h
  have hle := length_le_longestBacktickRun h
  have hlonger := (length_fence body).2
  rw [longestBacktickRun_closeLine] at hle
  rw [fence, List.length_replicate] at hlonger
  omega

/-- A body that is written is empty or ends in a newline. -/
theorem closeLine_ended (body : List Char) :
    closeLine body = [] ∨ isEnded (closeLine body) = true := by
  unfold closeLine
  split
  · next h =>
    rcases Bool.or_eq_true_iff.1 h with hempty | hended
    · exact .inl (List.isEmpty_iff.1 hempty)
    · exact .inr hended
  · exact .inr (isEnded_append_newline body)

theorem mem_closeLine {c : Char} (hc : c ≠ '\n') (h : c ∉ body) : c ∉ closeLine body := by
  unfold closeLine
  split
  · exact h
  · simpa [hc] using h

end Body

/-! ### Reading a code block back -/

/-- A code block with a newline after it starts with a fence. -/
theorem fenced_append_newline (info body : List Char) :
    fenced info body ++ ['\n'] = fenceSource '`' (fenceLength body) info
      (closeLine body ++ (List.replicate (fenceLength body) '`' ++ ['\n'])) := by
  simp [fenced, fence, fenceSource]

/-- A code block has no frontmatter before it. -/
theorem read_fenced (info body : List Char) :
    Frontmatter.read (fenced info body ++ ['\n']) = .ok (none, fenced info body ++ ['\n']) := by
  rw [fenced_append_newline]
  exact read_fenceSource (.inl rfl) (Nat.le_max_right _ _) _ _

/-- A code block that is written is one fenced block, up to the fence that was written after its
body. Assumes: the info string is one line without backticks, and the body has no carriage
return. -/
theorem fences_fenced {info body : List Char} (honeLine : '\n' ∉ info) (hbacktick : '`' ∉ info)
    (hreturn : '\r' ∉ body) :
    fences (fenced info body ++ ['\n']) = [⟨(fenced info body ++ ['\n']).length, 1,
      infoOfLine (info ++ ['\n']), closeLine body⟩] := by
  rw [fenced_append_newline]
  refine fences_of_body (.inl rfl) (Nat.le_max_right _ _) honeLine (fun c hc heq ↦ ?_)
    (fun _ ↦ hbacktick) (fence_not_infix_closeLine _) (mem_closeLine (by decide) hreturn)
    (closeLine_ended _)
  exact hbacktick (heq ▸ List.mem_of_mem_head? hc)

/-- A code block that is written ends in its fence. -/
theorem getLast?_fenced (info body : List Char) : (fenced info body).getLast? = some '`' := by
  have hpos : fenceLength body ≠ 0 := by
    unfold fenceLength
    omega
  rw [fenced, fence, List.getLast?_append, List.getLast?_replicate, if_neg hpos]
  rfl

/-- A source that is one fenced block up to a newline at its end is cut into the block and that
newline. -/
theorem cut_oneBlock {written info body : List Char} (hlast : written.getLast? = some '`') :
    cut (written ++ ['\n']) 0 [spanOfFence (written ++ ['\n']) 0
        ⟨(written ++ ['\n']).length, 1, info, body⟩] =
      [⟨.code ⟨String.ofList info, String.ofList body, some (String.ofList written)⟩,
        some ⟨1, 0⟩, "", []⟩, .markdown "\n"] := by
  have hkept : dropTrailing (fun c ↦ c = '\n' || c = '\r') written = written := by
    refine dropTrailing_of_getLast? ?_
    rw [hlast]
    rintro c ⟨⟩
    decide
  have hspan : spanOfFence (written ++ ['\n']) 0 ⟨(written ++ ['\n']).length, 1, info, body⟩ =
      ⟨0, written.length, info, body⟩ := by
    simp [spanOfFence, slice, hkept]
  have hraw : rawText (written ++ ['\n']) ⟨0, written.length, info, body⟩ = written := by
    simp [rawText, slice]
  have hafter : markdownBetween (written ++ ['\n']) written.length (written ++ ['\n']).length =
      [.markdown "\n"] := by
    simp [markdownBetween, slice]
  rw [hspan, cut, cut, Nat.zero_add, hafter, blockNode, hraw]
  rfl

/-- A code block that is written and read again. It is the only block of the text, only the newline
at the end is outside it, and its body is the one that was written, with a newline at its end unless
it is empty or has one. Assumes: the info string is one line without backticks, and the body has no
carriage return. -/
theorem parse_render_code {info body : String} (honeLine : '\n' ∉ info.toList)
    (hbacktick : '`' ∉ info.toList) (hreturn : '\r' ∉ body.toList) :
    let written := (Node.code info body).render
    let kept := if body.toList = [] ∨ body.toList.getLast? = some '\n' then body else body ++ "\n"
    parse (written ++ "\n") = .ok ⟨none, [
      ⟨.code ⟨String.ofList (infoOfLine (info.toList ++ ['\n'])), kept, some written⟩,
        some ⟨1, 0⟩, "", []⟩,
      .markdown "\n"]⟩ := by
  intro written kept
  have hwritten : written = String.ofList (fenced info.toList body.toList) := by
    change String.ofList (indentContinuation [] (fenced info.toList body.toList)) = _
    rw [indentContinuation_nil]
  have hkept : kept = String.ofList (closeLine body.toList) := by
    unfold kept closeLine
    simp only [Bool.or_eq_true, List.isEmpty_iff, decide_eq_true_eq]
    split
    · exact String.ofList_toList.symm
    · rw [String.ofList_append, String.ofList_toList]
  have hsource : (written ++ "\n").toList = fenced info.toList body.toList ++ ['\n'] := by
    rw [hwritten, String.toList_append, String.toList_ofList]
    rfl
  rw [parse, hsource, ofSource, read_fenced]
  simp only
  rw [spans, fences_fenced honeLine hbacktick hreturn, Nat.sub_self, List.map_singleton,
    cut_oneBlock (getLast?_fenced _ _), hkept, hwritten]

/-- A body with a longer fence, an indented one and a run at its end, which lacks its newline, is
read back with the newline. -/
theorem parse_render_code_runs :
    let body := "```\n   ````\n\n`````"
    '\n' ∉ "sh".toList ∧ '`' ∉ "sh".toList ∧ '\r' ∉ body.toList ∧
    (Node.code "sh" body).render = "``````sh\n```\n   ````\n\n`````\n``````" ∧
    parse ((Node.code "sh" body).render ++ "\n") = .ok ⟨none, [
      ⟨.code ⟨"sh", "```\n   ````\n\n`````\n", some (Node.code "sh" body).render⟩, some ⟨1, 0⟩, "",
        []⟩,
      .markdown "\n"]⟩ := by
  intro body
  have honeLine : '\n' ∉ "sh".toList := by decide
  have hbacktick : '`' ∉ "sh".toList := by decide
  have hreturn : '\r' ∉ body.toList := by decide
  refine ⟨honeLine, hbacktick, hreturn, by decide +kernel, ?_⟩
  have hinfo : String.ofList (infoOfLine ("sh".toList ++ ['\n'])) = "sh" := by decide +kernel
  have hparse := parse_render_code honeLine hbacktick hreturn
  rw [hinfo, if_neg (by decide +kernel)] at hparse
  exact hparse

end Runbook.Document
