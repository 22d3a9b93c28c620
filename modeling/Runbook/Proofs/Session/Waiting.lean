import Mathlib.Data.List.Infix
import Runbook.Proofs.Session.Yields
/-!
# Waiting for a text in output

A server that is started may be expected to print some text. Its output arrives in pieces, and after
each piece only that piece and the end of what came before are searched. The search finds the bytes
exactly when they occur in all that has been seen, as long as they did not occur before
(`Expect.completes_iff`), so it does not matter where the output is cut: looking at the pieces one
after the other finds the bytes at the first piece after which they have arrived, and otherwise
gives all that was seen (`Expect.found_or_absent`).

`readUntil` is the same search on a host. When the output of the process arrives in some pieces and
then ends (`Delivers`), it does what looking at the pieces does: it ends well where they are found
(`readUntil_of_found`) and fails otherwise (`readUntil_of_absent`). `readUntil_decides` puts this
together.
-/

set_option autoImplicit false

namespace Runbook

open Block Machine

/-- A text that is not empty has bytes. -/
theorem Text.encode_ne_nil {text : String} (h : text ≠ "") : Text.encode text ≠ [] := by
  obtain ⟨char, hchar⟩ := List.exists_mem_of_ne_nil _ (mt String.toList_eq_nil_iff.1 h)
  refine fun hnil ↦ Nat.ne_of_gt (Char.utf8Size_pos char) ?_
  rw [← String.length_utf8EncodeChar, List.flatMap_eq_nil_iff.1 hnil char hchar, List.length_nil]

namespace Session

/-! ### Bytes in bytes -/

namespace Expect

variable {needle seen piece bytes : Bytes} {before pieces : List Bytes} {count : Nat}

theorem startsWith_iff : startsWith bytes needle = true ↔ needle <+: bytes := by
  induction needle generalizing bytes with
  | nil =>
    cases bytes <;> exact iff_of_true rfl List.nil_prefix
  | cons first rest ih =>
    cases bytes with
    | nil => exact iff_of_false nofun (fun h ↦ nomatch List.prefix_nil.1 h)
    | cons byte bytes =>
      rw [startsWith, Bool.and_eq_true, beq_iff_eq, ih, List.cons_prefix_cons, eq_comm]

theorem occursIn_iff : occursIn needle bytes = true ↔ needle <:+: bytes := by
  induction bytes with
  | nil => rw [occursIn, List.isEmpty_iff, List.infix_nil]
  | cons byte bytes ih =>
    rw [occursIn, Bool.or_eq_true, startsWith_iff, ih, List.infix_cons_iff]

/-- Searching the new piece and the end of what was seen before is searching all. Assumes: the bytes
were not in what was seen before. -/
theorem completes_iff (hneedle : needle ≠ []) (hseen : ¬needle <:+: seen) :
    completes needle seen piece = true ↔ needle <:+: seen ++ piece := by
  rw [completes, occursIn_iff]
  refine ⟨fun h ↦ h.trans (List.drop_suffix _ _).isInfix, ?_⟩
  rintro ⟨front, back, hmatch⟩
  have hlength : 0 < needle.length := List.length_pos_iff.2 hneedle
  -- A match that ended in what was seen before would have been seen before.
  have hbeyond : seen.length < (front ++ needle).length := by
    refine Nat.lt_of_not_le fun hinside ↦ hseen ?_
    have hfront : front ++ needle <+: seen :=
      List.prefix_of_prefix_length_le (hmatch ▸ List.prefix_append _ _)
        (List.prefix_append _ _) hinside
    exact (List.suffix_append _ _).isInfix.trans hfront.isInfix
  rw [List.length_append] at hbeyond
  have hbegins : seen.length - (needle.length - 1) ≤ front.length := by omega
  refine ⟨front.drop (seen.length - (needle.length - 1)), back, ?_⟩
  rw [← hmatch, List.append_assoc, List.append_assoc, List.drop_append_of_le_length hbegins]

/-! ### Pieces one after the other -/

/-- What came of looking at pieces one after the other. -/
inductive Outcome where
  /-- The bytes are there after so many pieces. -/
  | found (pieces : Nat)
  /-- They are not there; all that was seen. -/
  | absent (seen : Bytes)
deriving DecidableEq, Repr

/-- Looks at pieces one after the other, given what was seen before and in how many pieces. -/
def scanFrom (needle : Bytes) : Nat → Bytes → List Bytes → Outcome
  | _, seen, [] => .absent seen
  | count, seen, piece :: pieces =>
    if completes needle seen piece then .found (count + 1)
    else scanFrom needle (count + 1) (seen ++ piece) pieces

/-- Looks at the pieces of an output one after the other. -/
def scan (needle : Bytes) (pieces : List Bytes) : Outcome := scanFrom needle 0 [] pieces

/-- The bytes have arrived after so many pieces, and not before. -/
structure ArrivesAt (needle : Bytes) (pieces : List Bytes) (count : Nat) : Prop where
  count_le : count ≤ pieces.length
  arrived : needle <:+: (pieces.take count).flatten
  first : ∀ fewer < count, ¬needle <:+: (pieces.take fewer).flatten

/-- The bytes arrive only once. -/
theorem ArrivesAt.unique {other : Nat} (h : ArrivesAt needle pieces count)
    (hother : ArrivesAt needle pieces other) : count = other := by
  rcases Nat.lt_trichotomy count other with hlt | heq | hlt
  · exact absurd h.arrived (hother.first count hlt)
  · exact heq
  · exact absurd hother.arrived (h.first other hlt)

/-- Bytes that have arrived are among all that there is. -/
theorem ArrivesAt.infix_flatten (h : ArrivesAt needle pieces count) :
    needle <:+: pieces.flatten :=
  h.arrived.trans (List.take_prefix count pieces).isInfix.flatten

/-- As long as bytes were not in what was seen before, searching the new piece and the end of that
gives the same as searching all again. -/
theorem completes_eq_occursIn (hneedle : needle ≠ []) (hseen : occursIn needle seen = false) :
    completes needle seen piece = occursIn needle (seen ++ piece) := by
  have hseen : ¬needle <:+: seen := fun h ↦ Bool.eq_false_iff.1 hseen (occursIn_iff.2 h)
  rw [Bool.eq_iff_iff, completes_iff hneedle hseen, occursIn_iff]

/-- Looking at pieces, after others in which the bytes have not arrived, finds the piece with which
they arrive. When they never do it gives all that was seen. -/
theorem found_or_absent (hneedle : needle ≠ []) (hbefore : ¬needle <:+: before.flatten) :
    (∃ found, scanFrom needle before.length before.flatten pieces = .found found ∧
      ArrivesAt needle (before ++ pieces) found) ∨
    scanFrom needle before.length before.flatten pieces = .absent (before ++ pieces).flatten ∧
      ¬needle <:+: (before ++ pieces).flatten := by
  induction pieces generalizing before with
  | nil =>
    rw [List.append_nil]
    exact .inr ⟨rfl, hbefore⟩
  | cons piece pieces ih =>
    have hcompletes : completes needle before.flatten piece = true ↔
        needle <:+: before.flatten ++ piece := completes_iff hneedle hbefore
    have hflatten : (before ++ [piece]).flatten = before.flatten ++ piece := by
      rw [List.flatten_append, List.flatten_singleton]
    have hlength : (before ++ [piece]).length = before.length + 1 := List.length_append
    rw [scanFrom]
    split
    · next hcomplete =>
      refine .inl ⟨before.length + 1, rfl, ?_, ?_, ?_⟩
      · rw [List.length_append, List.length_cons]
        omega
      · rw [List.append_cons, List.take_left' hlength, hflatten]
        exact hcompletes.1 hcomplete
      · intro fewer hfewer harrived
        rw [List.take_append_of_le_length (Nat.le_of_lt_succ hfewer)] at harrived
        exact hbefore (harrived.trans (List.take_prefix fewer before).isInfix.flatten)
    · next hincomplete =>
      have hlater := ih (hflatten ▸ fun h ↦ hincomplete (hcompletes.2 h))
      rwa [hflatten, hlength, ← List.append_cons] at hlater

/-- Looking at all pieces finds the one with which the bytes arrive, or gives all of them. -/
theorem scan_found_or_absent (hneedle : needle ≠ []) (pieces : List Bytes) :
    (∃ found, scan needle pieces = .found found ∧ ArrivesAt needle pieces found) ∨
    scan needle pieces = .absent pieces.flatten ∧ ¬needle <:+: pieces.flatten :=
  @found_or_absent needle [] pieces hneedle fun h ↦ hneedle (List.infix_nil.1 h)

end Expect

/-! ### Reading from a process -/

section Reading

variable {σ : Type} {host : Host σ} {block : StartServer} {process : ProcessId}
  {deadline : Instant} {needle seen : Bytes} {pieces : List Bytes} {state : σ} {limit : Nat}

/-- The output of a process arrives in some pieces, one for each time that it is asked for, and then
ends. -/
def Delivers (host : Host σ) (process : ProcessId) (deadline : Instant) : List Bytes → σ → Prop
  | [], state => (host.answer state (.readOutput process deadline)).1 = .arrived .closed
  | piece :: pieces, state =>
    (host.answer state (.readOutput process deadline)).1 = .arrived (.bytes piece) ∧
      Delivers host process deadline pieces (host.answer state (.readOutput process deadline)).2

/-- One step of reading until some bytes arrive. -/
theorem after_readUntil (session : Session) :
    after (readUntil block process needle deadline (limit + 1) seen) session =
      .ask (.readOutput process deadline) fun
        | .abandoned => .done (.error .abandoned, session)
        | .arrived .elapsed => .done (.error (.failed
          (.timeout (.output (block.expect.getD "") block.name) block.timeout)), session)
        | .arrived .closed => .ask (.poll process) fun status ↦ .done (.error (.failed
          (.process block.command (.silent (block.expect.getD "") status)
            (Text.decodeLossy seen))), session)
        | .arrived (.bytes piece) =>
          if Expect.completes needle seen piece then .done (.ok (), session)
          else after (readUntil block process needle deadline limit (seen ++ piece)) session := by
  rw [readUntil]
  refine (after_ask_bind _ _ _).trans (congrArg (Act.ask _) (funext fun reply ↦ ?_))
  obtain ⟨piece | _ | _⟩ | _ := reply
  · simp only
    split <;> rfl
  · rfl
  · rfl
  · rfl

/-- When looking at the pieces finds the bytes, reading ends with the piece at which it does.
Assumes: there is no more than the greatest number of pieces. -/
theorem readUntil_of_found (houtput : Delivers host process deadline pieces state)
    (hlimit : pieces.length ≤ limit) (session : Session) {before found : Nat}
    (hscan : Expect.scanFrom needle before seen pieces = .found found) :
    let work := readUntil block process needle deadline limit seen
    ∃ read, found = before + read ∧
      (follow host.answer work session state).1 = (.ok (), session) ∧
      (after work session).asked host state = .replicate read (.readOutput process deadline) := by
  intro work
  induction pieces generalizing before seen state limit with
  | nil => cases hscan
  | cons piece pieces ih =>
    obtain ⟨hpiece, hrest⟩ := houtput
    cases limit with
    | zero => cases hlimit
    | succ limit =>
      simp only [work, follow, after_readUntil, Act.run, Act.asked, hpiece]
      rw [Expect.scanFrom] at hscan
      split at hscan
      · next hcomplete =>
        cases hscan
        refine ⟨1, rfl, ?_⟩
        rw [if_pos hcomplete]
        exact ⟨rfl, rfl⟩
      · next hincomplete =>
        obtain ⟨read, hread, hresult, hasked⟩ := ih hrest (Nat.le_of_succ_le_succ hlimit) hscan
        refine ⟨read + 1, by omega, ?_⟩
        rw [if_neg hincomplete]
        exact ⟨hresult, congrArg (_ :: ·) hasked⟩

/-- When looking at the pieces does not find the bytes, reading ends with the output and fails with
all that was seen. Assumes: there are fewer than the greatest number of pieces. -/
theorem readUntil_of_absent (houtput : Delivers host process deadline pieces state)
    (hlimit : pieces.length < limit) (session : Session) {before : Nat} {all : Bytes}
    (hscan : Expect.scanFrom needle before seen pieces = .absent all) :
    let work := readUntil block process needle deadline limit seen
    (∃ status, (follow host.answer work session state).1 = (.error (.failed
      (.process block.command (.silent (block.expect.getD "") status) (Text.decodeLossy all))),
        session)) ∧
      (after work session).asked host state =
        .replicate (pieces.length + 1) (.readOutput process deadline) ++ [.poll process] := by
  intro work
  induction pieces generalizing before seen state limit with
  | nil =>
    cases hscan
    cases limit with
    | zero => cases hlimit
    | succ limit =>
      rw [Delivers] at houtput
      simp only [work, follow, after_readUntil, Act.run, Act.asked, houtput]
      exact ⟨⟨_, rfl⟩, rfl⟩
  | cons piece pieces ih =>
    obtain ⟨hpiece, hrest⟩ := houtput
    cases limit with
    | zero => cases hlimit
    | succ limit =>
      simp only [work, follow, after_readUntil, Act.run, Act.asked, hpiece]
      rw [Expect.scanFrom] at hscan
      split at hscan
      · cases hscan
      · next hincomplete =>
        obtain ⟨hresult, hasked⟩ := ih hrest (Nat.lt_of_succ_lt_succ hlimit) hscan
        rw [if_neg hincomplete]
        exact ⟨hresult, congrArg (_ :: ·) hasked⟩

/-- Reading until a text arrives in the output of a process does not depend on how the output is cut
into pieces. It ends well with a piece exactly when the bytes of the text are in what has arrived
with that piece and in nothing that had arrived before it. It fails with all of the output exactly
when they are nowhere in it. Searching the new piece and the end of what came before gives what
searching all again would. Assumes: the text is not empty, and the output arrives in these pieces,
which are fewer than the greatest number of them. That number is any here; `maxPieces`, with which
the text is waited for, is more than the bytes that a machine can hold. -/
theorem readUntil_decides {expect : String} (hexpect : block.expect = some expect)
    (hnonempty : expect ≠ "") (houtput : Delivers host process deadline pieces state)
    (hlimit : pieces.length < limit) (session : Session) :
    let needle := Text.encode expect
    let work := readUntil block process needle deadline limit []
    let result := (follow host.answer work session state).1
    let asked := (after work session).asked host state
    (∀ count, Expect.ArrivesAt needle pieces count ↔
      result = (.ok (), session) ∧ asked = .replicate count (.readOutput process deadline)) ∧
    (¬needle <:+: pieces.flatten ↔ ∃ status,
      result = (.error (.failed (.process block.command (.silent expect status)
        (Text.decodeLossy pieces.flatten))), session) ∧
      asked =
        .replicate (pieces.length + 1) (.readOutput process deadline) ++ [.poll process]) ∧
    ∀ seen piece, Expect.occursIn needle seen = false →
      Expect.completes needle seen piece = Expect.occursIn needle (seen ++ piece) := by
  intro needle work result asked
  have hneedle : needle ≠ [] := Text.encode_ne_nil hnonempty
  refine and_assoc.1 ⟨?_, fun seen piece ↦ Expect.completes_eq_occursIn hneedle⟩
  rcases Expect.scan_found_or_absent hneedle pieces with ⟨found, hscan, harrives⟩ | ⟨hscan, habsent⟩
  · obtain ⟨read, rfl, hresult, hasked⟩ :=
      readUntil_of_found houtput (Nat.le_of_lt hlimit) session hscan
    rw [Nat.zero_add] at harrives
    refine ⟨fun count ↦ ⟨fun h ↦ ?_, fun ⟨_, h⟩ ↦ ?_⟩, fun h ↦ ?_, fun ⟨_, h, _⟩ ↦ ?_⟩
    · exact h.unique harrives ▸ ⟨hresult, hasked⟩
    · have hcount : count = read := by
        simpa only [List.length_replicate] using congrArg List.length (h.symm.trans hasked)
      exact hcount ▸ harrives
    · exact absurd harrives.infix_flatten h
    · exact nomatch hresult.symm.trans h
  · obtain ⟨⟨status, hresult⟩, hasked⟩ := readUntil_of_absent houtput hlimit session hscan
    rw [hexpect] at hresult
    refine ⟨fun count ↦ ⟨fun h ↦ ?_, fun ⟨h, _⟩ ↦ ?_⟩, fun _ ↦ ?_, fun _ ↦ habsent⟩
    · exact absurd h.infix_flatten habsent
    · exact nomatch hresult.symm.trans h
    · exact ⟨status, hresult, hasked⟩

end Reading

/-- The text is found in three pieces, the second of which ends inside its last character. -/
theorem readUntil_cut_character :
    let host : Host (List Bytes) := ⟨fun pieces _ ↦ (0, pieces), fun
      | piece :: pieces, .readOutput _ _ => (.arrived (.bytes piece), pieces)
      | pieces, request => (request.easyReply, pieces)⟩
    let session : Session := .new ⟨"work", "assets", none, "x", "sh", "/", .default⟩
    let block : StartServer := ⟨"web", "serve", some "at é", .ofWholeSeconds 1, none, false⟩
    let pieces : List Bytes := [[32, 97, 116], [32, 195], [169, 10]]
    let work := readUntil block 7 (Text.encode "at é") 9 4 []
    Delivers host 7 9 pieces pieces ∧
      Expect.ArrivesAt (Text.encode "at é") pieces 3 ∧
      (follow host.answer work session pieces).1 = (.ok (), session) ∧
      (after work session).asked host pieces = .replicate 3 (.readOutput 7 9) := by
  intro host session block pieces work
  have houtput : Delivers host 7 9 pieces pieces := ⟨rfl, rfl, rfl, rfl⟩
  have hbefore : ∀ fewer < 3,
      Expect.occursIn (Text.encode "at é") (pieces.take fewer).flatten = false := by
    decide +kernel
  have harrives : Expect.ArrivesAt (Text.encode "at é") pieces 3 := by
    refine ⟨Nat.le_refl 3, ⟨[32], [10], by decide +kernel⟩, fun fewer hfewer harrived ↦ ?_⟩
    exact Bool.eq_false_iff.1 (hbefore fewer hfewer) (Expect.occursIn_iff.2 harrived)
  have hdecides := @readUntil_decides _ host block 7 9 pieces pieces 4 "at é" rfl (by decide)
    houtput (by decide) session
  exact ⟨houtput, harrives, (hdecides.1 3).1 harrives⟩

end Session

end Runbook
