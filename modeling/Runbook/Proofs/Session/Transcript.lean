import Mathlib.Data.List.Forall2
import Runbook.Proofs.Session.Replacement
import Runbook.Proofs.Session.Yields
/-!
# What a command block does and shows

The commands of a block are run one after the other in its directory, each in a shell of its own
(`IsShellFor`). A command succeeds when its shell could be started, ended in time and ended well
(`Succeeds`); otherwise it fails, and that is why the block stops (`Fails`).
`runCommand_transcribes` says for every run of a block what is asked of the machine and what comes
of it (`Transcribes`): the commands before the one that fails have all succeeded, and nothing is
asked after it. When no command fails, the block shows each command after the prompt with what it
printed, and every prompt is at the beginning of a line.

`Work.Adds` says of work what it adds to a record of exchanges, together with its result. It is
proved along the text of the work; for the commands one after the other it is an induction on them
(`adds_runCommands`).
-/

set_option autoImplicit false

namespace Runbook.Session

open Block Document Machine Number Work

/-! ### What work adds to a record -/

/-- Work that is done in a session leaves it as it is, and what it adds to a record goes with its
result. -/
def Work.Adds {α : Type} (work : Work α) (session : Session)
    (added : Except Stop α → List Exchange → Prop) : Prop :=
  ∀ record, Evolving Recording (fun _ ↦ True) work session record fun result reached world ↦
    reached = session ∧ ∃ later, world = record ++ later ∧ added result later

namespace Work.Adds

variable {α β : Type} {session : Session} {added : Except Stop α → List Exchange → Prop}

protected theorem pure {value : α} (h : added (.ok value) []) :
    (Pure.pure value : Work α).Adds session added :=
  fun record ↦ ⟨rfl, [], (List.append_nil record).symm, h⟩

protected theorem throw {stop : Stop} (h : added (.error stop) []) :
    (throw stop : Work α).Adds session added :=
  fun record ↦ ⟨rfl, [], (List.append_nil record).symm, h⟩

protected theorem fail {cause : Failure} (h : added (.error (.failed cause)) []) :
    (Work.fail cause : Work α).Adds session added :=
  .throw h

/-- Work that asks the machine first. -/
protected theorem ask {request : Request} {next : request.Reply → Work α}
    (h : ∀ reply, (next reply).Adds session fun result later ↦
      added result (⟨request, reply⟩ :: later)) :
    (Work.ask request >>= next).Adds session added := by
  refine fun record ↦ Evolving.ask ?_
  rintro reply _ rfl
  refine ⟨trivial, (h reply _).imp fun result reached world ↦ ?_⟩
  rintro ⟨hsession, later, rfl, hadded⟩
  exact ⟨hsession, _, (List.append_cons record _ later).symm, hadded⟩

/-- Work that looks at the session first. -/
protected theorem get {next : Session → Work α} (h : (next session).Adds session added) :
    (MonadState.get >>= next).Adds session added :=
  fun record ↦ Evolving.get (h record)

protected theorem bind {work : Work α} {next : α → Work β}
    {whole : Except Stop β → List Exchange → Prop} (h : work.Adds session added)
    (hok : ∀ value first, added (.ok value) first →
      (next value).Adds session fun result later ↦ whole result (first ++ later))
    (herror : ∀ stop first, added (.error stop) first → whole (.error stop) first) :
    (work >>= next).Adds session whole := by
  refine fun record ↦ Evolving.bind (h record) ?_ ?_
  · rintro value _ _ ⟨rfl, first, rfl, hfirst⟩
    refine (hok value first hfirst _).imp fun result reached world ↦ ?_
    rintro ⟨hsession, later, rfl, hwhole⟩
    exact ⟨hsession, _, List.append_assoc _ _ _, hwhole⟩
  · rintro stop _ _ ⟨rfl, first, rfl, hfirst⟩
    exact ⟨rfl, first, rfl, herror stop first hfirst⟩

/-- What work adds to a record holds of the exchanges of its runs. -/
theorem exchanges {σ : Type} {work : Work α} (h : work.Adds session added)
    (answer : σ → (request : Request) → request.Reply × σ) (state : σ) :
    ((after work session).run answer state).1.2 = session ∧
      added ((after work session).run answer state).1.1
        ((after work session).exchanges answer state) := by
  obtain ⟨hsession, later, hrecord, hadded⟩ := Act.Evolves.exchanges (h []) answer state
  rw [List.nil_append, List.nil_append] at hrecord
  rw [hrecord]
  exact ⟨hsession, hadded⟩

end Work.Adds

/-! ### One command -/

/-- The process that is to be started for a command: a shell that starts in the directory and reads
nothing. Its script has the command in a group whose error output joins its output. The end of the
group is on a line of its own, so a comment at the end of the command does not hide it. -/
structure IsShellFor (shell directory line : String) (invocation : Invocation) : Prop where
  program_eq : invocation.program = shell
  args_eq : invocation.args = ["-c", "\x7b " ++ line ++ "\n\x7d 2>&1"]
  cwd_eq : invocation.cwd = directory
  environment_eq : invocation.environment = []
  readsInput_eq : invocation.readsInput = false
  /-- What the shell itself has to say is kept too. -/
  keepsErrors_eq : invocation.keepsErrors = true
  leadsGroup_eq : invocation.leadsGroup = false

theorem isShellFor_shellInvocation (shell line directory : String) :
    IsShellFor shell directory line (shellInvocation shell line directory) :=
  ⟨rfl, rfl, rfl, rfl, rfl, rfl, rfl⟩

/-- The moment until which a process is waited for, which the clock is asked for when there is a
limit. -/
def IsDeadline : Option Duration → List Exchange → Option Instant → Prop
  | none, record, deadline => record = [] ∧ deadline = none
  | some limit, record, deadline =>
    ∃ now, record = [⟨.clock, now⟩] ∧ deadline = some (Instant.after now limit)

section Command

variable (shell directory : String) (limit : Option Duration) (line : String)

/-- A shell is started for a command in a directory and waited for until its output and its end are
there, the limit is over or the wait comes back in another way. -/
def IsAwaited (record : List Exchange) (process : ProcessId) (reply : Awaited Collected) : Prop :=
  ∃ invocation looked deadline, IsShellFor shell directory line invocation ∧
    IsDeadline limit looked deadline ∧
    record = ⟨.spawn invocation, .ok process⟩ ::
      (looked ++ [⟨.collect process [] deadline, reply⟩])

/-- A command succeeds with its output: it is started, it ends in time and well, and it was given
its input, of which there is none, as far as it wanted it. -/
inductive Succeeds : List Exchange → String → Prop where
  | ended {record : List Exchange} {process : ProcessId} {status : ExitStatus}
      {output errors : Bytes} {inputError : Option IoError}
      (hawaited : IsAwaited shell directory limit line record process
        (.arrived (.ended status output errors inputError)))
      (hstatus : status.isSuccess = true)
      (hinput : ∀ error ∈ inputError, error = .os IoError.brokenPipeCode) :
      Succeeds record (Text.decodeLossy output ++ Text.decodeLossy errors)

/-- A command fails, with what stops the block. A shell that has not ended is let go. -/
inductive Fails : List Exchange → Stop → Prop where
  | notStarted {invocation : Invocation} (error : IoError)
      (hshell : IsShellFor shell directory line invocation) :
      Fails [⟨.spawn invocation, .error error⟩]
        (.failed (.process line .notStarted error.message))
  | elapsed {record : List Exchange} {process : ProcessId}
      (hawaited : IsAwaited shell directory limit line record process (.arrived .elapsed)) :
      Fails (record ++ [⟨.release process, ()⟩])
        (.failed (.timeout (.exit line) (limit.getD ⟨0⟩)))
  | unsuccessful {record : List Exchange} {process : ProcessId} {status : ExitStatus}
      {output errors : Bytes} {inputError : Option IoError}
      (hawaited : IsAwaited shell directory limit line record process
        (.arrived (.ended status output errors inputError)))
      (hstatus : status.isSuccess = false) :
      Fails record (.failed (.process line (.ended status)
        (Text.decodeLossy output ++ Text.decodeLossy errors)))
  /-- The wait for it goes wrong. -/
  | notAwaited {record : List Exchange} {process : ProcessId} {error : IoError}
      (hawaited : IsAwaited shell directory limit line record process (.arrived (.failed error))) :
      Fails (record ++ [⟨.release process, ()⟩])
        (.failed (.process line .notAwaited error.message))
  /-- It ends well, but it did not get its input although it was still there to read it. -/
  | notFed {record : List Exchange} {process : ProcessId} {status : ExitStatus}
      {output errors : Bytes} {error : IoError}
      (hawaited : IsAwaited shell directory limit line record process
        (.arrived (.ended status output errors (some error))))
      (hstatus : status.isSuccess = true) (hinput : error ≠ .os IoError.brokenPipeCode) :
      Fails record (.failed (.process line .notFed error.message))
  /-- The run is given up while it is waited for. -/
  | abandoned {record : List Exchange} {process : ProcessId}
      (hawaited : IsAwaited shell directory limit line record process .abandoned) :
      Fails (record ++ [⟨.release process, ()⟩]) .abandoned

/-- What a command leaves that has ended, or why it fails before that counts. -/
def Leaves : Except Stop Finished → List Exchange → Prop
  | .ok finished, record => ∃ process inputError, IsAwaited shell directory limit line record
      process (.arrived (.ended finished.status finished.output finished.errors inputError)) ∧
      (finished.status.isSuccess = true → ∀ error ∈ inputError, error = .os IoError.brokenPipeCode)
  | .error stop, record => Fails shell directory limit line record stop

variable (session : Session)

theorem adds_deadline? : (deadline? limit).Adds session fun result record ↦
    ∃ deadline, result = .ok deadline ∧ IsDeadline limit record deadline := by
  cases limit with
  | none => exact .pure ⟨none, rfl, rfl, rfl⟩
  | some limit => exact .ask fun now ↦ .pure ⟨_, rfl, now, rfl, rfl⟩

theorem adds_runToEnd :
    (runToEnd (shellInvocation shell line directory) line [] limit).Adds session
      (Leaves shell directory limit line) := by
  have hshell := isShellFor_shellInvocation shell line directory
  refine .ask fun reply ↦ ?_
  cases reply with
  | error error => exact .fail (.notStarted error hshell)
  | ok process =>
    rw [orFail, pure_bind]
    refine .bind (adds_deadline? limit session) ?_ ?_
    · rintro deadline looked ⟨_, ⟨⟩, hlooked⟩
      refine .ask fun reply ↦ ?_
      have hawaited : IsAwaited shell directory limit line
          (⟨.spawn (shellInvocation shell line directory), .ok process⟩ ::
            (looked ++ [⟨.collect process [] deadline, reply⟩])) process reply :=
        ⟨_, looked, deadline, hshell, hlooked, rfl⟩
      have hrecord (later : List Exchange) :
          ⟨.spawn (shellInvocation shell line directory), .ok process⟩ ::
            (looked ++ ⟨.collect process [] deadline, reply⟩ :: later) =
          ⟨.spawn (shellInvocation shell line directory), .ok process⟩ ::
            (looked ++ [⟨.collect process [] deadline, reply⟩]) ++ later := by
        rw [List.cons_append, List.append_assoc, List.singleton_append]
      obtain (⟨status, output, errors, _ | error⟩ | _ | error) | _ := reply
      · exact .pure ⟨process, none, hawaited, fun _ error h ↦ absurd h (Option.not_mem_none error)⟩
      · dsimp only
        split
        · next hunfed =>
          obtain ⟨hstatus, hinput⟩ := Bool.and_eq_true_iff.1 hunfed
          exact .fail (.notFed hawaited hstatus (of_decide_eq_true hinput))
        · next hfed =>
          refine .pure ⟨process, some error, hawaited, fun hstatus ↦ ?_⟩
          rintro _ ⟨⟩
          by_contra hinput
          exact hfed (Bool.and_eq_true_iff.2 ⟨hstatus, decide_eq_true hinput⟩)
      · refine .ask fun released ↦ .fail ?_
        rw [hrecord]
        exact .elapsed hawaited
      · refine .ask fun released ↦ .fail ?_
        rw [hrecord]
        exact .notAwaited hawaited
      · refine .ask fun released ↦ .throw ?_
        rw [hrecord]
        exact .abandoned hawaited
    · rintro _ _ ⟨_, hvalue, -⟩
      cases hvalue

/-- One command by itself: it succeeds or fails. -/
theorem adds_runLine {α : Type} {next : Finished → Work α}
    {added : Except Stop α → List Exchange → Prop}
    (hnext : ∀ finished record, Succeeds shell directory limit line record finished.text →
      (next finished).Adds session fun result later ↦ added result (record ++ later))
    (hfails : ∀ stop record, Fails shell directory limit line record stop →
      added (.error stop) record) :
    (runToEnd (shellInvocation shell line directory) line [] limit >>= fun finished ↦
      requireSuccess line finished >>= fun _ ↦ next finished).Adds session added := by
  refine .bind (adds_runToEnd shell directory limit line session) ?_ hfails
  rintro finished record ⟨process, inputError, hawaited, hinput⟩
  unfold requireSuccess
  cases hstatus : finished.status.isSuccess with
  | true =>
    rw [if_pos rfl, pure_bind]
    exact hnext _ _ (.ended hawaited hstatus (hinput hstatus))
  | false =>
    rw [if_neg Bool.false_ne_true]
    change (Work.fail _ : Work α).Adds session _
    refine .fail ?_
    rw [List.append_nil]
    exact hfails _ _ (.unsuccessful hawaited hstatus)

end Command

/-! ### Commands one after the other -/

/-- A command that has been run, with what was asked of the machine for it and what it printed. -/
structure Ran where
  line : String
  record : List Exchange
  output : String

section Commands

variable (shell directory : String) (limit : Option Duration)

/-- All commands succeed, one after the other, and nothing else is asked. -/
structure AllSucceed (lines : List String) (ran : List Ran) (record : List Exchange) : Prop where
  lines_eq : lines = ran.map Ran.line
  succeeds : ∀ one ∈ ran, Succeeds shell directory limit one.line one.record one.output
  record_eq : record = ran.flatMap Ran.record

/-- The first commands succeed, one after the other, the next one fails, and nothing else is asked,
so nothing for the commands after it. -/
structure BreaksOff (lines : List String) (ran : List Ran) (line : String) (record : List Exchange)
    (stop : Stop) : Prop where
  lines_eq : ∃ later, lines = ran.map Ran.line ++ line :: later
  succeeds : ∀ one ∈ ran, Succeeds shell directory limit one.line one.record one.output
  record_eq : ∃ last, Fails shell directory limit line last stop ∧
    record = ran.flatMap Ran.record ++ last

/-- What commands come to: what they printed, or the failure of the first that fails. -/
def ComesTo (lines : List String) (result : Except Stop (List (String × String)))
    (record : List Exchange) : Prop :=
  (∃ ran, AllSucceed shell directory limit lines ran record ∧
    result = .ok (ran.map fun one ↦ (one.line, one.output))) ∨
  ∃ ran line stop, BreaksOff shell directory limit lines ran line record stop ∧ result = .error stop

variable {shell directory limit} {line : String} {lines : List String}
  {first record : List Exchange} {output : String}

/-- A command that succeeds goes before the others. -/
theorem ComesTo.cons {result : Except Stop (List (String × String))}
    (hfirst : Succeeds shell directory limit line first output)
    (h : ComesTo shell directory limit lines result record) :
    ComesTo shell directory limit (line :: lines) (result.map fun runs ↦ (line, output) :: runs)
      (first ++ record) := by
  rcases h with ⟨ran, h, rfl⟩ | ⟨ran, failing, stop, h, rfl⟩
  · obtain ⟨rfl, hran, rfl⟩ := h
    exact .inl ⟨⟨line, first, output⟩ :: ran,
      ⟨rfl, List.forall_mem_cons.2 ⟨hfirst, hran⟩, rfl⟩, rfl⟩
  · obtain ⟨⟨later, rfl⟩, hran, last, hlast, rfl⟩ := h
    exact .inr ⟨⟨line, first, output⟩ :: ran, failing, stop,
      ⟨⟨later, rfl⟩, List.forall_mem_cons.2 ⟨hfirst, hran⟩, last, hlast,
        (List.append_assoc _ _ _).symm⟩, rfl⟩

theorem comesTo_fails {stop : Stop} (h : Fails shell directory limit line record stop) :
    ComesTo shell directory limit (line :: lines) (.error stop) record :=
  .inr ⟨[], line, stop, ⟨⟨lines, rfl⟩, List.forall_mem_nil _, record, h, rfl⟩, rfl⟩

theorem adds_runCommands (block : Command) (directory : String) (lines : List String)
    (session : Session) : (runCommands block directory lines).Adds session
      (ComesTo session.options.shell directory block.timeout lines) := by
  induction lines with
  | nil => exact .pure (.inl ⟨[], ⟨rfl, List.forall_mem_nil _, rfl⟩, rfl⟩)
  | cons line lines ih =>
    rw [runCommands]
    refine .get (adds_runLine _ _ _ _ _ (fun finished first hfirst ↦ ?_) fun _ _ ↦ comesTo_fails)
    refine .bind ih (fun runs record h ↦ .pure ?_) fun stop record h ↦ h.cons hfirst
    rw [List.append_nil]
    exact h.cons hfirst

end Commands

/-! ### Which commands are started -/

/-- The process that an exchange is meant to start. -/
def started? : Exchange → Option Invocation
  | ⟨.spawn invocation, _⟩ => some invocation
  | _ => none

section Started

variable {shell directory : String} {limit : Option Duration} {line : String}
  {lines : List String} {ran : List Ran} {record : List Exchange}

theorem IsDeadline.started {deadline : Option Instant} (h : IsDeadline limit record deadline) :
    record.filterMap started? = [] := by
  cases limit with
  | none =>
    obtain ⟨rfl, -⟩ := h
    rfl
  | some limit =>
    obtain ⟨now, rfl, -⟩ := h
    rfl

/-- A command that is waited for has one process started, which is a shell for it. -/
theorem IsAwaited.started {process : ProcessId} {reply : Awaited Collected}
    (h : IsAwaited shell directory limit line record process reply) :
    [line].Forall₂ (IsShellFor shell directory) (record.filterMap started?) := by
  obtain ⟨invocation, looked, deadline, hshell, hlooked, rfl⟩ := h
  have hrest :
      List.filterMap started? (looked ++ [⟨.collect process [] deadline, reply⟩]) = [] := by
    rw [List.filterMap_append, hlooked.started]
    rfl
  change [line].Forall₂ _ (invocation :: List.filterMap started? _)
  rw [hrest]
  exact .cons hshell .nil

theorem IsAwaited.started_release {process : ProcessId} {reply : Awaited Collected}
    (h : IsAwaited shell directory limit line record process reply) :
    [line].Forall₂ (IsShellFor shell directory)
      (List.filterMap started? (record ++ [⟨.release process, ()⟩])) := by
  rw [List.filterMap_append]
  exact List.rel_append h.started .nil

theorem Succeeds.started {output : String}
    (h : Succeeds shell directory limit line record output) :
    [line].Forall₂ (IsShellFor shell directory) (record.filterMap started?) := by
  obtain ⟨hawaited, -, -⟩ := h
  exact hawaited.started

theorem Fails.started {stop : Stop} (h : Fails shell directory limit line record stop) :
    [line].Forall₂ (IsShellFor shell directory) (record.filterMap started?) := by
  cases h with
  | notStarted error hshell => exact .cons hshell .nil
  | unsuccessful hawaited hstatus => exact hawaited.started
  | notFed hawaited hstatus hinput => exact hawaited.started
  | elapsed hawaited => exact hawaited.started_release
  | notAwaited hawaited => exact hawaited.started_release
  | abandoned hawaited => exact hawaited.started_release

theorem started_flatMap
    (h : ∀ one ∈ ran, Succeeds shell directory limit one.line one.record one.output) :
    (ran.map Ran.line).Forall₂ (IsShellFor shell directory)
      ((ran.flatMap Ran.record).filterMap started?) := by
  induction ran with
  | nil => exact .nil
  | cons one ran ih =>
    obtain ⟨hone, hran⟩ := List.forall_mem_cons.1 h
    rw [List.flatMap_cons, List.filterMap_append]
    exact List.rel_append hone.started (ih hran)

theorem AllSucceed.started (h : AllSucceed shell directory limit lines ran record) :
    lines.Forall₂ (IsShellFor shell directory) (record.filterMap started?) := by
  rw [h.record_eq, h.lines_eq]
  exact started_flatMap h.succeeds

theorem BreaksOff.started {stop : Stop}
    (h : BreaksOff shell directory limit lines ran line record stop) :
    (ran.map Ran.line ++ [line]).Forall₂ (IsShellFor shell directory)
      (record.filterMap started?) := by
  obtain ⟨last, hlast, hrecord⟩ := h.record_eq
  rw [hrecord, List.filterMap_append]
  exact List.rel_append (started_flatMap h.succeeds) hlast.started

end Started

/-! ### What a block shows -/

/-- What comes after a text begins a line. -/
def EndsLine (text : String) : Prop := text = "" ∨ text.toList.getLast? = some '\n'

instance (text : String) : Decidable (EndsLine text) := instDecidableOr

/-- The newline that a text lacks, if it lacks one. -/
def missingNewline (text : String) : String := if EndsLine text then "" else "\n"

/-- What a block shows of commands that have been run: the prompt and the command in a line, and
below it, unless this is turned off, what the command printed. -/
def shownFor (block : Command) (ran : List Ran) : String :=
  String.join (ran.map fun one ↦ block.prompt ++ " " ++ one.line ++ "\n" ++
    if block.showOutput then one.output ++ missingNewline one.output else "")

theorem transcript_eq (block : Command) (ran : List Ran) :
    block.transcript (ran.map fun one ↦ (one.line, one.output)) = shownFor block ran := by
  have hclosed (output : String) :
      Command.closedOutput output = output ++ missingNewline output := by
    have hends : (output.isEmpty || output.toList.getLast? = some '\n') = true ↔
        EndsLine output := by
      simp only [EndsLine, Bool.or_eq_true, String.isEmpty_iff, decide_eq_true_eq]
    unfold Command.closedOutput missingNewline
    simp only [hends]
    split
    · exact (String.append_empty).symm
    · rfl
  rw [Command.transcript, shownFor, List.map_map]
  congr 1
  refine List.map_congr_left fun one _ ↦ ?_
  change block.entry one.line one.output = _
  rw [Command.entry, hclosed]

example : shownFor ⟨["printf x", "true"], none, false, "console", "$", true, none⟩
    [⟨"printf x", [], "x"⟩, ⟨"true", [], ""⟩] = "$ printf x\nx\n$ true\n" := by decide

theorem shownFor_append (block : Command) (before after : List Ran) :
    shownFor block (before ++ after) = shownFor block before ++ shownFor block after := by
  rw [shownFor, List.map_append, String.join_append, shownFor, shownFor]

theorem EndsLine.append {before after : String} (hbefore : EndsLine before)
    (hafter : EndsLine after) : EndsLine (before ++ after) := by
  rcases hafter with rfl | hafter
  · rwa [String.append_empty]
  · right
    rw [String.toList_append, List.getLast?_append, hafter]
    rfl

theorem endsLine_newline (text : String) : EndsLine (text ++ "\n") := by
  right
  rw [String.toList_append]
  exact List.getLast?_concat

theorem endsLine_missingNewline (text : String) : EndsLine (text ++ missingNewline text) := by
  unfold missingNewline
  split
  · next hends => rwa [String.append_empty]
  · exact endsLine_newline text

/-- After commands with what they printed, a line begins. -/
theorem endsLine_shownFor (block : Command) (ran : List Ran) : EndsLine (shownFor block ran) := by
  induction ran with
  | nil => exact .inl rfl
  | cons one ran ih =>
    rw [shownFor, List.map_cons, String.join_cons]
    refine ((endsLine_newline _).append ?_).append ih
    split
    · exact endsLine_missingNewline _
    · exact .inl rfl

/-! ### Blocks -/

/-- Looking whether there is a directory at a path. -/
theorem adds_leadsTo_directory (path : String) (session : Session) :
    (leadsTo path .directory).Adds session fun result record ↦
      ∃ reply : Except IoError EntryKind, record = [⟨.entryKind path true, reply⟩] ∧
        (result = .ok true ∧ reply = .ok .directory ∨
          result = .ok false ∧ reply ≠ .ok .directory) := by
  refine .ask fun reply ↦ ?_
  obtain error | found := reply
  · exact .pure ⟨.error error, rfl, .inr ⟨rfl, nofun⟩⟩
  · by_cases hfound : found = .directory
    · exact .pure ⟨.ok found, rfl, .inl ⟨congrArg _ (decide_eq_true hfound), congrArg _ hfound⟩⟩
    · exact .pure ⟨.ok found, rfl, .inr ⟨congrArg _ (decide_eq_false hfound),
        fun heq ↦ hfound (Except.ok.inj heq)⟩⟩

/-- A directory is looked for, and the work fails when it is not there. -/
def FindsDirectory (directory : String) (result : Except Stop String) (record : List Exchange) :
    Prop :=
  ∃ reply : Except IoError EntryKind, record = [⟨.entryKind directory true, reply⟩] ∧
    (result = .ok directory ∧ reply = .ok .directory ∨
      result = .error (.failed (.unmet (.noDirectory directory))) ∧ reply ≠ .ok .directory)

theorem adds_blockDirectory (cwd : Option String) (session : Session) :
    (blockDirectory cwd).Adds session (FindsDirectory (session.options.directoryOf cwd)) := by
  have hfinds (path : String) : (do
      if ← leadsTo path .directory then return path
      else fail (.unmet (.noDirectory path)) : Work String).Adds session (FindsDirectory path) := by
    refine .bind (adds_leadsTo_directory path session) ?_ ?_
    · rintro found record ⟨reply, rfl, ⟨⟨⟩, hreply⟩ | ⟨⟨⟩, hreply⟩⟩
      · exact .pure ⟨reply, rfl, .inl ⟨rfl, hreply⟩⟩
      · exact .fail ⟨reply, rfl, .inr ⟨rfl, hreply⟩⟩
    · rintro stop record ⟨reply, -, ⟨⟨⟩, -⟩ | ⟨⟨⟩, -⟩⟩
  cases cwd with
  | none => exact .get (hfinds session.options.workdir)
  | some cwd => exact .get (hfinds (Path.join session.options.workdir cwd))

/-- What a run of a command block asks of the machine and what comes of it. When its directory is
not there, nothing else is asked. Otherwise its commands are run in order in this directory, each in
a shell. When all succeed, the block shows the commands and what they printed, unless it is hidden;
when one fails, the block fails as that command does, and no later one is run. -/
inductive Transcribes (block : Command) (shell directory : String) :
    Except Stop (Option Node) → List Exchange → Prop where
  | noDirectory {reply : Except IoError EntryKind} (hreply : reply ≠ .ok .directory) :
      Transcribes block shell directory (.error (.failed (.unmet (.noDirectory directory))))
        [⟨.entryKind directory true, reply⟩]
  | allSucceed {ran : List Ran} {commands : List Exchange}
      (hall : AllSucceed shell directory block.timeout block.lines ran commands)
      (hstarted : block.lines.Forall₂ (IsShellFor shell directory) (commands.filterMap started?)) :
      Transcribes block shell directory
        (.ok (if block.hidden then none else some (.code block.lang (shownFor block ran))))
        (⟨.entryKind directory true, Except.ok .directory⟩ :: commands)
  | breaksOff {ran : List Ran} {line : String} {stop : Stop} {commands : List Exchange}
      (hbreaks : BreaksOff shell directory block.timeout block.lines ran line commands stop)
      (hstarted : (ran.map Ran.line ++ [line]).Forall₂ (IsShellFor shell directory)
        (commands.filterMap started?)) :
      Transcribes block shell directory (.error stop)
        (⟨.entryKind directory true, Except.ok .directory⟩ :: commands)

theorem adds_runCommand (block : Command) (session : Session) : (runCommand block).Adds session
    (Transcribes block session.options.shell (session.options.directoryOf block.cwd)) := by
  refine .bind (adds_blockDirectory block.cwd session) ?_ ?_
  · rintro directory record ⟨reply, rfl, ⟨⟨⟩, rfl⟩ | ⟨⟨⟩, -⟩⟩
    refine .bind (adds_runCommands block _ block.lines session) ?_ ?_
    · rintro runs commands (⟨ran, hall, ⟨⟩⟩ | ⟨ran, line, stop, hbreaks, ⟨⟩⟩)
      rw [transcript_eq]
      refine .pure ?_
      rw [List.append_nil]
      exact .allSucceed hall hall.started
    · rintro stop commands (⟨ran, hall, ⟨⟩⟩ | ⟨ran, line, stop, hbreaks, ⟨⟩⟩)
      exact .breaksOff hbreaks hbreaks.started
  · rintro stop record ⟨reply, rfl, ⟨⟨⟩, -⟩ | ⟨⟨⟩, hreply⟩⟩
    exact .noDirectory hreply

/-- Every run of a command block goes as it should and leaves the session as it is, whatever the
machine answers. In what commands show, every prompt begins a line. -/
theorem runCommand_transcribes {σ : Type} (block : Command) (session : Session)
    (answer : σ → (request : Request) → request.Reply × σ) (state : σ) :
    let out := ((after (runCommand block) session).run answer state).1
    let record := (after (runCommand block) session).exchanges answer state
    Transcribes block session.options.shell (session.options.directoryOf block.cwd) out.1 record ∧
      out.2 = session ∧
      ∀ ran count, shownFor block ran =
          shownFor block (ran.take count) ++ shownFor block (ran.drop count) ∧
        EndsLine (shownFor block (ran.take count)) := by
  intro out record
  obtain ⟨hsession, htranscribes⟩ := (adds_runCommand block session).exchanges answer state
  refine ⟨htranscribes, hsession, fun ran count ↦ ⟨?_, endsLine_shownFor _ _⟩⟩
  rw [← shownFor_append, List.take_append_drop]

/-- A command that prints a text without a newline succeeds and is shown. Before one that fails and
a third it is run too, and the third is not. -/
theorem runCommand_transcribes_secondFails :
    let block (lines : List String) : Command :=
      ⟨lines, some "app", false, "console", "$", true, none⟩
    let session := Session.new ⟨"scratch", "assets", none, "run", "sh", "/screenshots", .default⟩
    let answer (state : Nat) (request : Request) : request.Reply × Nat := match request with
      | .entryKind _ _ => (.ok .directory, state)
      | .spawn _ => (.ok state, state + 1)
      | .collect process _ _ => (.arrived (if process = 0
          then .ended (.exited 0) (Text.encode "x") [] none
          else .ended (.exited 3) [] [] none), state)
      | request => (request.easyReply, state)
    let out (lines : List String) := ((after (runCommand (block lines)) session).run answer 0).1.1
    let record (lines : List String) :=
      (after (runCommand (block lines)) session).exchanges answer 0
    let three := ["printf x", "exit 3", "true"]
    Transcribes (block three) "sh" "scratch/app" (out three) (record three) ∧
      out ["printf x"] = .ok (some (.code "console" "$ printf x\nx\n")) ∧
      out three = .error (.failed (.process "exit 3" (.ended (.exited 3)) "")) ∧
      (record three).filterMap started? =
        [⟨"sh", ["-c", "\x7b printf x\n\x7d 2>&1"], "scratch/app", [], false, true, false⟩,
          ⟨"sh", ["-c", "\x7b exit 3\n\x7d 2>&1"], "scratch/app", [], false, true, false⟩] := by
  intro block session answer out record three
  have hdirectory : session.options.directoryOf (block three).cwd = "scratch/app" := by decide
  have htranscribes := (runCommand_transcribes (block three) session answer 0).1
  rw [hdirectory] at htranscribes
  exact ⟨htranscribes, by decide +kernel, by decide +kernel, by decide⟩

end Runbook.Session
