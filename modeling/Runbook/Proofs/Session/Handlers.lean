import Runbook.Proofs.Session.Frame
import Runbook.Proofs.Session.Registry
/-!
# What running a block can come to

A block is checked before it runs and not again: whatever the machine answers and whatever the
session holds, none of the seven actions stops with a refusal. What an action shows is a node whose
facts have distinct names. Five of the actions leave the servers of the session alone. One that
starts a server and succeeds has found its name free and has added the server; one that stops a
server and succeeds has found it and has taken it out. `leaves_runAction` says all of this, and each
action has its own statement of the same form, which follows the text of the action. The ends of a
session have theirs as well: whatever way a session is ended, no server is left.

`Failure.isRefused` picks out refusals, `Failure.isValidation` those that are reported as faults of
the text of a block; a request for a picture that cannot be met is a refusal but no such fault.
-/

set_option autoImplicit false

namespace Runbook

namespace Block.Failure

/-- Whether a failure is the refusal of a block. -/
def isRefused : Failure → Bool
  | refused _ => true
  | _ => false

/-- Whether a failure comes from a directory that is missing or from a process, and so from outside
the session. -/
def isExternal : Failure → Bool
  | unmet (.noDirectory _) => true
  | process _ _ _ => true
  | timeout _ _ => true
  | _ => false

theorem isRefused_of_isExternal {cause : Failure} (h : cause.isExternal = true) :
    cause.isRefused = false := by
  cases cause with
  | refused _ => cases h
  | _ => rfl

/-- Whether a failure comes from an operation on files. -/
def isIo : Failure → Bool
  | io _ _ => true
  | _ => false

theorem isRefused_of_isIo {cause : Failure} (h : cause.isIo = true) : cause.isRefused = false := by
  cases cause with
  | refused _ => cases h
  | _ => rfl

end Block.Failure

/-! ### Facts of nodes -/

namespace Document

/-- Facts with distinct names. -/
def Data.Distinct (data : Data) : Prop := (data.map Prod.fst).Nodup

theorem Data.Distinct.set {data : Data} (h : data.Distinct) (key value : String) :
    (data.set key value).Distinct := by
  have hkept : (data.filter fun entry ↦ entry.1 != key).map Prod.fst =
      (data.map Prod.fst).filter fun name ↦ name != key := by
    rw [List.filter_map]
    rfl
  unfold Data.Distinct Data.set
  rw [List.map_append, hkept, List.nodup_append]
  refine ⟨h.filter _, List.pairwise_singleton _ key, fun name hname other hother ↦ ?_⟩
  rw [List.mem_singleton.1 hother]
  simpa using (List.mem_filter.1 hname).2

theorem Data.Distinct.withData {node : Node} (h : node.data.Distinct) (key value : String) :
    (node.withData key value).data.Distinct :=
  h.set key value

theorem Data.distinct_nil : Data.Distinct [] := List.nodup_nil

/-- What a block shows has facts with distinct names. -/
def Presentable (shown : Option Node) : Prop := ∀ node ∈ shown, node.data.Distinct

theorem presentable_none : Presentable none := nofun

theorem presentable_some {node : Node} (h : node.data.Distinct) : Presentable (some node) := by
  intro shown hshown
  cases Option.mem_some_iff.1 hshown
  exact h

/-- A block that may be hidden shows a node or nothing. -/
theorem presentable_unless {node : Node} (h : node.data.Distinct) (hidden : Bool) :
    Presentable (if hidden then none else some node) := by
  split
  · exact presentable_none
  · exact presentable_some h

end Document

namespace Session

open Block Document Machine Work

variable {α : Type}

/-- Work stops with no failure that is a refusal. -/
abbrev Runs (work : Work α) : Prop :=
  work.Yields (fun _ ↦ True) fun cause ↦ cause.isRefused = false

/-- Work gives what a block shows and stops with no failure that is a refusal. -/
abbrev Shows (work : Work (Option Node)) : Prop :=
  work.Yields Presentable fun cause ↦ cause.isRefused = false

/-- Work leaves the servers alone and stops with no failure that is a refusal. -/
abbrev Spares (answers : Answers) (work : Work α) : Prop :=
  work.Frames answers (fun _ ↦ True) fun cause ↦ cause.isRefused = false

/-- Work leaves the servers alone and stops with no failure but one from outside the session. -/
abbrev Meets (answers : Answers) (work : Work α) : Prop :=
  work.Frames answers (fun _ ↦ True) fun cause ↦ cause.isExternal = true

/-- Work leaves the servers alone and stops with no failure but one of an operation on files. -/
abbrev Stores (answers : Answers) (work : Work α) : Prop :=
  work.Frames answers (fun _ ↦ True) fun cause ↦ cause.isIo = true

/-- Work gives what a block shows, leaves the servers alone and stops with no failure that is a
refusal. -/
abbrev Presents (answers : Answers) (work : Work (Option Node)) : Prop :=
  work.Frames answers Presentable fun cause ↦ cause.isRefused = false

variable {answers : Answers}

theorem spares_pure (value : α) : Spares answers (pure value) := .pure trivial

theorem spares_fail {cause : Failure} (h : cause.isRefused = false) :
    Spares answers (Work.fail cause : Work α) :=
  .fail h

theorem meets_pure (value : α) : Meets answers (pure value) := .pure trivial

/-- A failure from outside the session is no refusal. -/
theorem Meets.spares {work : Work α} (h : Meets answers work) : Spares answers work :=
  Frames.allow h fun _ ↦ Failure.isRefused_of_isExternal

/-- A failure of an operation on files is no refusal. -/
theorem Stores.spares {work : Work α} (h : Stores answers work) : Spares answers work :=
  Frames.allow h fun _ ↦ Failure.isRefused_of_isIo

/-! ### Processes -/

theorem meets_blockDirectory (cwd : Option String) : Meets answers (blockDirectory cwd) := by
  refine .bind .get fun session _ ↦ .bind (.leadsTo _ _) fun found _ ↦ ?_
  split
  · exact .pure trivial
  · exact .fail rfl

theorem spares_blockDirectory (cwd : Option String) : Spares answers (blockDirectory cwd) :=
  (meets_blockDirectory cwd).spares

theorem spares_runToEnd (invocation : Invocation) (label : String) (input : Bytes)
    (limit : Option Number.Duration) : Spares answers (runToEnd invocation label input limit) := by
  refine .bind (.ask nofun) fun spawned _ ↦ .bind (.orFail fun _ ↦ rfl) fun process _ ↦
    .bind (.deadline? limit) fun deadline _ ↦ .bind (.ask nofun) fun collected hcollected ↦ ?_
  split
  · exact .bind (.ask nofun) fun _ _ ↦ .abandon ⟨_, _, hcollected, rfl⟩
  · exact .bind (.ask nofun) fun _ _ ↦ spares_fail rfl
  · exact .bind (.ask nofun) fun _ _ ↦ spares_fail rfl
  · split
    · split
      · exact spares_fail rfl
      · exact spares_pure _
    · exact spares_pure _

theorem spares_requireSuccess (label : String) (finished : Finished) :
    Spares answers (requireSuccess label finished) := by
  unfold requireSuccess
  split
  · exact spares_pure _
  · exact spares_fail rfl

/-! ### Command blocks -/

theorem spares_runCommands (block : Command) (directory : String) (lines : List String) :
    Spares answers (runCommands block directory lines) := by
  induction lines with
  | nil => exact spares_pure _
  | cons line lines ih =>
    exact .bind .get fun session _ ↦ .bind (spares_runToEnd _ _ _ _) fun finished _ ↦
      .bind (spares_requireSuccess _ _) fun _ _ ↦ .bind ih fun _ _ ↦ spares_pure _

theorem presents_runCommand (block : Command) : Presents answers (runCommand block) :=
  .bind (spares_blockDirectory _) fun _ _ ↦ .bind (spares_runCommands _ _ _) fun _ _ ↦
    .pure (presentable_unless Data.distinct_nil _)

/-! ### File blocks -/

theorem stores_orFail (answer : Except IoError α) {path : String} :
    Stores answers (Work.orFail answer (Failure.atPath path)) :=
  .orFail fun _ ↦ rfl

theorem spares_orFail (answer : Except IoError α) {path : String} :
    Spares answers (Work.orFail answer (Failure.atPath path)) :=
  (stores_orFail answer).spares

theorem stores_discardFile (path : String) : Stores answers (Work.ask (.discardFile path)) :=
  .imp (.ask nofun) fun _ _ ↦ trivial

theorem spares_discardFile (path : String) : Spares answers (Work.ask (.discardFile path)) :=
  (stores_discardFile path).spares

theorem stores_publish (temp target : String) (mode : Option Nat) :
    Stores answers (publish temp target mode) :=
  .onStop (stores_discardFile _) (.bind (.ask nofun) fun _ _ ↦ .bind (stores_orFail _) fun _ _ ↦
    .bind (.ask nofun) fun _ _ ↦ stores_orFail _)

theorem spares_publish (temp target : String) (mode : Option Nat) :
    Spares answers (publish temp target mode) :=
  (stores_publish temp target mode).spares

theorem stores_fill (temp : String) (content : Bytes) : Stores answers (fill temp content) :=
  .onStop (stores_discardFile _) (.bind (.ask nofun) fun _ _ ↦ .bind (stores_orFail _) fun _ _ ↦
    .bind (.ask nofun) fun _ _ ↦ .bind (stores_orFail _) fun _ _ ↦
      .bind (.ask nofun) fun _ _ ↦ stores_orFail _)

theorem stores_writeAtomic (target : String) (content : Bytes) (mode : Option Nat) :
    Stores answers (writeAtomic target content mode) :=
  .bind (.ask nofun) fun _ _ ↦ .bind (stores_orFail _) fun _ _ ↦
    .bind (stores_fill _ _) fun _ _ ↦ stores_publish _ _ _

theorem spares_writeAtomic (target : String) (content : Bytes) (mode : Option Nat) :
    Spares answers (writeAtomic target content mode) :=
  (stores_writeAtomic target content mode).spares

theorem stores_makeParent (target : String) : Stores answers (makeParent target) := by
  unfold makeParent
  split
  · exact .pure trivial
  · exact .bind (.ask nofun) fun _ _ ↦ stores_orFail _

theorem spares_makeParent (target : String) : Spares answers (makeParent target) :=
  (stores_makeParent target).spares

theorem spares_modeOf (target : String) : Spares answers (modeOf target) := by
  refine .bind (.ask nofun) fun answer _ ↦ ?_
  split <;> exact spares_pure _

theorem presents_runCreateFile (block : CreateFile) : Presents answers (runCreateFile block) :=
  .bind (spares_blockDirectory _) fun _ _ ↦ .bind (spares_makeParent _) fun _ _ ↦
    .bind (spares_modeOf _) fun _ _ ↦ .bind (spares_writeAtomic _ _ _) fun _ _ ↦
      .pure (presentable_unless (Data.distinct_nil.withData _ _) _)

theorem spares_readTarget (block : PatchFile) (target : String) :
    Spares answers (readTarget block target) := by
  refine .bind (.ask nofun) fun answer _ ↦ ?_
  split
  · exact .bind (spares_modeOf _) fun _ _ ↦ spares_pure _
  · split
    · exact spares_fail rfl
    · split
      · exact .bind (spares_makeParent _) fun _ _ ↦ spares_pure _
      · exact spares_fail rfl

theorem presents_runPatchFile (block : PatchFile) : Presents answers (runPatchFile block) := by
  refine .bind (spares_blockDirectory _) fun directory _ ↦
    .bind (spares_readTarget _ _) fun read _ ↦ ?_
  obtain ⟨content, mode⟩ := read
  simp only
  split
  · exact .fail rfl
  · exact .bind (spares_writeAtomic _ _ _) fun _ _ ↦
      .pure (presentable_unless (Data.distinct_nil.withData _ _) _)

/-! ### Checkpoints -/

theorem spares_basename : Spares answers basename := by
  refine .bind .get fun session _ ↦ ?_
  split
  · split
    · exact spares_fail rfl
    · exact spares_pure _
  · exact spares_fail rfl

theorem spares_recordCheckpoint (name : String) : Spares answers (recordCheckpoint name) := by
  refine fun session ↦ .get ?_
  split
  · exact spares_pure false session
  · exact ⟨rfl, trivial⟩

theorem spares_isLeftOut (exclude : List String) (skip path name : String) :
    Spares answers (isLeftOut exclude skip path name) := by
  unfold isLeftOut
  split
  · exact spares_pure _
  · refine .bind (.ask nofun) fun answer _ ↦ ?_
    split <;> exact spares_pure _

theorem spares_copyEntry (source target : String) (kind : EntryKind) :
    Spares answers (copyEntry source target kind) := by
  unfold copyEntry
  split
  · exact .bind (.ask nofun) fun _ _ ↦ .bind (spares_orFail _) fun _ _ ↦
      .bind (.ask nofun) fun _ _ ↦ .bind (spares_orFail _) fun _ _ ↦ spares_pure _
  · exact .bind (.ask nofun) fun _ _ ↦ .bind (spares_orFail _) fun _ _ ↦ spares_pure _

theorem spares_copyEntries (exclude : List String) (skip source target : String)
    {copyDirectory : String → String → Work Nat}
    (hcopy : ∀ source target, Spares answers (copyDirectory source target))
    (entries : List (String × EntryKind)) :
    Spares answers (copyEntries exclude skip source target copyDirectory entries) := by
  induction entries with
  | nil => exact spares_pure _
  | cons entry entries ih =>
    obtain ⟨name, kind⟩ := entry
    refine .bind (spares_isLeftOut _ _ _ _) fun leftOut _ ↦ ?_
    extract_lets rest
    have hrest : ∀ copied, Spares answers (rest copied) := fun _ ↦ .bind ih fun _ _ ↦ spares_pure _
    split
    · exact .bind (spares_pure _) fun copied _ ↦ hrest copied
    · split
      · exact .bind (.ask nofun) fun _ _ ↦ .bind (spares_orFail _) fun _ _ ↦
          .bind (hcopy _ _) fun copied _ ↦ hrest copied
      · exact .bind (spares_copyEntry _ _ _) fun copied _ ↦ hrest copied

theorem spares_copyDirectory (exclude : List String) (skip : String) (depth : Nat)
    (source target : String) : Spares answers (copyDirectory exclude skip depth source target) := by
  induction depth generalizing source target with
  | zero => exact spares_fail rfl
  | succ depth ih =>
    exact .bind (.ask nofun) fun _ _ ↦ .bind (.orFail fun _ ↦ rfl) fun entries _ ↦
      spares_copyEntries _ _ _ _ ih entries

theorem spares_copyTree (source target : String) (exclude : List String) (skip : String) :
    Spares answers (copyTree source target exclude skip) := by
  refine .bind (.ask nofun) fun _ _ ↦ .bind (.orFail fun _ ↦ rfl) fun found _ ↦ ?_
  extract_lets rest
  have hrest : ∀ kind, Spares answers (rest kind) := by
    intro kind
    show Spares answers (if kind = .directory then _ else _)
    split
    · exact spares_copyDirectory _ _ _ _ _
    · exact spares_pure _
  split
  · exact .bind (.ask nofun) fun _ _ ↦ .bind (.orFail fun _ ↦ rfl) fun kind _ ↦ hrest kind
  · exact .bind (spares_pure _) fun kind _ ↦ hrest kind

theorem spares_fillCheckpoint (block : Checkpoint) (parent staging : String) :
    Spares answers (fillCheckpoint block parent staging) := by
  refine .bind .get fun _ _ ↦ .bind (.ask nofun) fun _ _ ↦ .bind (spares_orFail _) fun _ _ ↦
    .bind (spares_copyTree _ _ _ _) fun _ _ ↦ .bind (.leadsSomewhere _) fun taken _ ↦ ?_
  extract_lets rest
  have hrest : Spares answers (rest ()) := .bind (.ask nofun) fun _ _ ↦ spares_orFail _
  split
  · exact .bind (.ask nofun) fun _ _ ↦ .bind (spares_orFail _) fun _ _ ↦ hrest
  · exact hrest

theorem presents_runCheckpoint (block : Checkpoint) : Presents answers (runCheckpoint block) := by
  refine .bind spares_basename fun _ _ ↦ .bind (spares_recordCheckpoint _) fun first _ ↦ ?_
  extract_lets rest
  have hdiscard (staging : String) : Spares answers (Work.ask (.discardTree staging)) :=
    .imp (.ask nofun) fun _ _ ↦ trivial
  have hrest : Presents answers (rest ()) :=
    .bind .get fun _ _ ↦ .bind (.ask nofun) fun _ _ ↦ .bind (.orFail fun _ ↦ rfl) fun _ _ ↦
      .bind (.ask nofun) fun _ _ ↦ .bind (spares_orFail _) fun _ _ ↦
        .bind (.onStop (hdiscard _) (spares_fillCheckpoint _ _ _)) fun _ _ ↦
          .pure presentable_none
  split
  · exact .bind (spares_fail rfl) fun _ _ ↦ hrest
  · exact hrest

/-! ### Screenshots -/

theorem distinct_pictureNode (block : Picture) (url target : String) (width height : Nat) :
    (pictureNode block url target width height).data.Distinct := by
  refine .withData (.withData (.withData ?_ _ _) _ _) _ _
  split <;> exact Data.distinct_nil

theorem spares_capture (block : Picture) (temp : String) : Spares answers (capture block temp) := by
  refine .bind .get fun _ _ ↦ .bind (spares_runToEnd _ _ _ _) fun _ _ ↦
    .bind (spares_requireSuccess _ _) fun _ _ ↦ .bind (.ask nofun) fun _ _ ↦
      .bind (spares_orFail _) fun bytes _ ↦ ?_
  split
  · exact spares_pure _
  · exact spares_fail rfl

theorem presents_runScreenshot (block : Picture) : Presents answers (runScreenshot block) :=
  .bind spares_basename fun _ _ ↦ .bind .get fun _ _ ↦ .bind (.ask nofun) fun _ _ ↦
    .bind (.orFail fun _ ↦ rfl) fun _ _ ↦ .bind (.ask nofun) fun _ _ ↦
      .bind (spares_orFail _) fun _ _ ↦
        .bind (.onStop (spares_discardFile _) (spares_capture _ _)) fun _ _ ↦
          .bind (spares_publish _ _ _) fun _ _ ↦
            .pure (presentable_some (distinct_pictureNode _ _ _ _ _))

/-! ### Servers -/

theorem frames_dropServer (process : ProcessId) (fails : Failure → Prop) :
    (dropServer process).Frames answers (fun _ ↦ True) fails :=
  .bind (.ask nofun) fun _ _ ↦ .imp (.ask nofun) fun _ _ ↦ trivial

theorem meets_readUntil (block : StartServer) (process : ProcessId) (needle : Bytes)
    (deadline : Instant) (pieces : Nat) (seen : Bytes) :
    Meets answers (readUntil block process needle deadline pieces seen) := by
  induction pieces generalizing seen with
  | zero => exact .fail rfl
  | succ pieces ih =>
    refine .bind (.ask nofun) fun answer hanswer ↦ ?_
    split
    · exact .abandon ⟨_, _, hanswer, rfl⟩
    · exact .fail rfl
    · exact .bind (.ask nofun) fun _ _ ↦ .fail rfl
    · split
      · exact .pure trivial
      · exact ih _

theorem meets_awaitReady (block : StartServer) (process : ProcessId) :
    Meets answers (awaitReady block process) := by
  unfold awaitReady
  split
  · exact .pure trivial
  · refine .bind (.ask nofun) fun now _ ↦ ?_
    simp only
    split
    · exact .pure trivial
    · exact meets_readUntil _ _ _ _ _ _

/-- A server that is started has the name of its block; it is not yet among those that run. -/
theorem frames_startServer (block : StartServer) (directory : String) :
    (startServer block directory).Frames answers (fun server ↦ server.name = block.name)
      fun cause ↦ cause.isExternal = true :=
  .bind .get fun _ _ ↦ .bind (.ask nofun) fun _ _ ↦ .bind (.orFail fun _ ↦ rfl) fun _ _ ↦
    .bind (.onStop (frames_dropServer _ _) (meets_awaitReady _ _)) fun _ _ ↦
      .bind (.ask nofun) fun _ _ ↦ .pure rfl

theorem meets_awaitEnd (server : Server) (deadline : Option Instant) :
    Meets answers (awaitEnd server deadline) := by
  refine .bind (.ask nofun) fun answer hanswer ↦ ?_
  split
  · exact .bind (frames_dropServer _ _) fun _ _ ↦ .abandon ⟨_, _, hanswer, rfl⟩
  · exact .pure trivial

theorem meets_stopServer (server : Server) (grace : Number.Duration) :
    Meets answers (stopServer server grace) := by
  refine .bind (.ask nofun) fun _ _ ↦ .bind (.ask nofun) fun now _ ↦
    .bind (meets_awaitEnd _ _) fun first _ ↦ ?_
  -- Both ways of waiting lead to the same rest.
  extract_lets rest
  have hrest : ∀ ended, Meets answers (rest ended) := by
    intro ended
    cases ended with
    | status status => exact .pure trivial
    | failed error => exact .bind (.ask nofun) fun _ _ ↦ .fail rfl
    | elapsed => exact .bind (.ask nofun) fun _ _ ↦ .fail rfl
  split
  · exact .bind (.ask nofun) fun _ _ ↦ .bind (meets_awaitEnd _ _) fun ended _ ↦ hrest ended
  · exact .bind (meets_pure _) fun ended _ ↦ hrest ended

theorem frames_dropServers (servers : List Server) (fails : Failure → Prop) :
    (dropServers servers).Frames answers (fun _ ↦ True) fails := by
  induction servers with
  | nil => exact .pure trivial
  | cons server servers ih => exact .bind (frames_dropServer _ _) fun _ _ ↦ ih

/-- Stopping servers one after the other never fails, since the failures on the way are handled. -/
theorem frames_stopServers (grace : Number.Duration) (servers : List Server) :
    (stopServers grace servers).Frames answers (fun _ ↦ True) fun _ ↦ False := by
  induction servers with
  | nil => exact .pure trivial
  | cons server servers ih =>
    have hstop : Meets answers (do let _ ← stopServer server grace) :=
      .bind (meets_stopServer server grace) fun _ _ ↦ .pure trivial
    refine .bind (.tryCatch hstop ?_ ?_) fun _ _ ↦ ih
    · exact fun _ _ ↦ .pure trivial
    · exact fun hgivesUp ↦ .bind (frames_dropServers servers _) fun _ _ ↦ .abandon hgivesUp

/-! ### The registry of a session -/

section Registry

variable {session : Session}

/-- A name that has to be free is free, unless a server with the name is running. -/
theorem leaves_requireVacant (name : String) :
    (requireVacant name).Leaves answers session
      (fun _ servers ↦ servers = session.servers ∧ name ∉ session.servers.names)
      (fun cause ↦ cause = .unmet (.serverRunning name) ∧ name ∈ session.servers.names)
      fun servers ↦ servers = session.servers := by
  refine .get ?_
  split
  · next htaken => exact ⟨⟨rfl, Registry.contains_eq_true.1 htaken⟩, rfl⟩
  · next hvacant =>
    exact ⟨rfl, Registry.contains_eq_false.1 (Bool.eq_false_of_not_eq_true hvacant)⟩

theorem after_requireVacant (name : String) (session : Session) :
    after (requireVacant name) session = pure (if session.servers.contains name
      then .error (.failed (.unmet (.serverRunning name))) else .ok (), session) := by
  rw [requireVacant, after_bind, after_get, pure_bind]
  simp only
  split <;> rfl

/-- A server whose name is free is registered. -/
theorem after_register {server : Server} (h : server.name ∉ session.servers.names) :
    after (register server) session =
      pure (.ok (), { session with servers := session.servers.insert server }) := by
  rw [register, after_bind, after_requireVacant, Registry.contains_eq_false.2 h]
  rfl

/-- A server that is registered is added, unless a server with its name is running. -/
theorem leaves_register (server : Server) :
    (register server).Leaves answers session
      (fun _ servers ↦ server.name ∉ session.servers.names ∧
        servers = session.servers.insert server)
      (fun cause ↦ cause = .unmet (.serverRunning server.name) ∧
        server.name ∈ session.servers.names)
      fun servers ↦ servers = session.servers := by
  refine (leaves_requireVacant server.name).bind ?_ fun _ hservers ↦ hservers
  rintro value reached ⟨hservers, hvacant⟩
  refine ⟨hvacant, ?_⟩
  rw [← hservers]

/-- A server that is taken is the one with the name, and it is taken out. When there is none, the
registry is what it would be without one. -/
theorem leaves_takeServer (name : String) :
    (takeServer name).Leaves answers session
      (fun _ servers ↦ name ∈ session.servers.names ∧ servers = session.servers.erase name)
      (fun cause ↦ cause = .unmet (.noServer name) ∧ name ∉ session.servers.names)
      fun servers ↦ servers = session.servers.erase name := by
  refine .get ?_
  split
  · next hnone =>
    exact ⟨⟨rfl, Registry.not_mem_names_of_find? hnone⟩, (Registry.erase_of_find? hnone).symm⟩
  · next server hsome => exact ⟨(Registry.mem_names_of_find? hsome).2, rfl⟩

/-- A start that succeeds adds a server with the name of its block, which was free; one that does
not adds none. It fails because the name is taken, or for a cause from outside the session, and then
the name was free. -/
theorem leaves_runStartServer (block : StartServer) :
    (runStartServer block).Leaves answers session
      (fun shown servers ↦ (block.name ∉ session.servers.names ∧
        ∃ server : Server, server.name = block.name ∧ servers = session.servers.insert server) ∧
        Presentable shown)
      (fun cause ↦ cause = .unmet (.serverRunning block.name) ∧ block.name ∈ session.servers.names ∨
        cause.isExternal = true ∧ block.name ∉ session.servers.names)
      fun servers ↦ servers = session.servers := by
  refine ((leaves_requireVacant block.name).imp (fun _ _ h ↦ h) (fun _ ↦ .inl) fun _ h ↦ h).bind
    ?_ fun _ hservers ↦ hservers
  rintro _ vacant ⟨hvacant, hfree⟩
  refine ((meets_blockDirectory block.cwd).allow (fun _ h ↦ .inr ⟨h, hfree⟩) vacant).bind ?_
    fun _ hservers ↦ hservers.trans hvacant
  rintro directory found ⟨hfound, -⟩
  have hlooked := hfound.trans hvacant
  refine ((frames_startServer block directory).allow (fun _ h ↦ .inr ⟨h, hfree⟩) found).bind ?_
    fun _ hservers ↦ hservers.trans hlooked
  rintro server started ⟨hstarted, hname⟩
  have hready := hstarted.trans hlooked
  have hvacantStill : server.name ∉ started.servers.names := by rwa [hname, hready]
  refine ((leaves_register server).imp (fun _ _ h ↦ h) (fun _ h ↦ absurd h.2 hvacantStill)
    fun _ h ↦ h).bind ?_ fun _ hservers ↦ hservers.trans hready
  rintro _ registered ⟨-, hregistered⟩
  rw [hready] at hregistered
  exact ⟨⟨hfree, server, hname, hregistered⟩, presentable_unless Data.distinct_nil _⟩

/-- A stop takes out the server with the name of its block, whether the server can be stopped or
not. It fails because there is none, or for a cause from outside the session, and then there was
one. -/
theorem leaves_runStopServer (block : StopServer) :
    (runStopServer block).Leaves answers session
      (fun shown servers ↦ (block.name ∈ session.servers.names ∧
        servers = session.servers.erase block.name) ∧ Presentable shown)
      (fun cause ↦ cause = .unmet (.noServer block.name) ∧ block.name ∉ session.servers.names ∨
        cause.isExternal = true ∧ block.name ∈ session.servers.names)
      fun servers ↦ servers = session.servers.erase block.name := by
  refine ((leaves_takeServer block.name).imp (fun _ _ h ↦ h) (fun _ ↦ .inl) fun _ h ↦ h).bind
    ?_ fun _ hservers ↦ hservers
  rintro server taken ⟨hfound, htaken⟩
  refine ((meets_stopServer server block.grace).allow (fun _ h ↦ .inr ⟨h, hfound⟩) taken).bind ?_
    fun _ hservers ↦ hservers.trans htaken
  rintro _ stopped ⟨hstopped, -⟩
  exact ⟨⟨hfound, hstopped.trans htaken⟩, presentable_none⟩

/-- Shutting down leaves no server and names those that were there. It never fails. -/
theorem leaves_shutDown (grace : Number.Duration) :
    (shutDown grace).Leaves answers session
      (fun names servers ↦ servers = [] ∧ names = session.servers.names)
      (fun _ ↦ False) fun servers ↦ servers = [] := by
  refine .get (.modify ?_)
  refine (frames_stopServers grace session.servers _).bind ?_ fun _ hservers ↦ hservers
  rintro _ stopped ⟨hstopped, -⟩
  exact ⟨hstopped, rfl⟩

/-- After a failure no server is left. -/
theorem leaves_abort :
    abort.Leaves answers session (fun _ servers ↦ servers = []) (fun _ ↦ False)
      fun servers ↦ servers = [] := by
  refine (leaves_shutDown _).bind ?_ fun _ hservers ↦ hservers
  rintro names stopped ⟨hstopped, -⟩
  exact hstopped

/-- At the end of a session no server is left. The end fails exactly when there was one, and names
those that there were. -/
theorem leaves_finish :
    finish.Leaves answers session (fun _ servers ↦ session.servers = [] ∧ servers = [])
      (fun cause ↦ session.servers ≠ [] ∧ cause = .leaked session.servers.names)
      fun servers ↦ servers = [] := by
  refine .get ?_
  split
  · next hempty =>
    have hservers := List.isEmpty_iff.1 hempty
    exact ⟨hservers, hservers⟩
  · next hempty =>
    have hservers : session.servers ≠ [] := fun hnil ↦ hempty (by rw [hnil]; rfl)
    refine Leaves.bind ((leaves_shutDown _).imp (fun _ _ hnames ↦ hnames)
      (fun _ hfails ↦ hfails.elim) fun _ hstops ↦ hstops) ?_ fun _ hstops ↦ hstops
    rintro names stopped ⟨hstopped, rfl⟩
    exact ⟨⟨hservers, rfl⟩, hstopped⟩

/-- When a run is given up no server is left. -/
theorem leaves_dropAll :
    dropAll.Leaves answers session (fun _ servers ↦ servers = []) (fun _ ↦ False)
      fun servers ↦ servers = [] := by
  refine .get (.modify ?_)
  exact (frames_dropServers session.servers _ _).imp (fun _ _ hdropped ↦ hdropped.1)
    (fun _ hfails ↦ hfails) fun _ hdropped ↦ hdropped

end Registry

/-! ### Actions -/

/-- What an action that succeeds does to the servers that are running. -/
def Switches : Action → Registry → Registry → Prop
  | .startServer block, servers, later =>
    block.name ∉ servers.names ∧
      ∃ server : Server, server.name = block.name ∧ later = servers.insert server
  | .stopServer block, servers, later =>
    block.name ∈ servers.names ∧ later = servers.erase block.name
  | _, servers, later => later = servers

/-- What running an action can come to: it gives what its block shows, and the servers are switched
as the action says; or it stops, but with no refusal, and no server has been added. -/
theorem leaves_runAction (action : Action) (session : Session) :
    (runAction action).Leaves answers session
      (fun shown servers ↦ Switches action session.servers servers ∧ Presentable shown)
      (fun cause ↦ cause.isRefused = false) fun servers ↦ servers ⊆ session.servers := by
  have hsame : ∀ servers, servers = session.servers → servers ⊆ session.servers := fun _ hservers ↦
    hservers ▸ List.Subset.refl _
  cases action with
  | command block =>
    exact (presents_runCommand block session).imp (fun _ _ h ↦ h) (fun _ h ↦ h) hsame
  | patchFile block =>
    exact (presents_runPatchFile block session).imp (fun _ _ h ↦ h) (fun _ h ↦ h) hsame
  | createFile block =>
    exact (presents_runCreateFile block session).imp (fun _ _ h ↦ h) (fun _ h ↦ h) hsame
  | startServer block =>
    refine (leaves_runStartServer block).imp (fun _ _ h ↦ h) ?_ hsame
    rintro cause (⟨rfl, -⟩ | ⟨hexternal, -⟩)
    · rfl
    · exact Failure.isRefused_of_isExternal hexternal
  | stopServer block =>
    refine (leaves_runStopServer block).imp (fun _ _ h ↦ h) ?_ ?_
    · rintro cause (⟨rfl, -⟩ | ⟨hexternal, -⟩)
      · rfl
      · exact Failure.isRefused_of_isExternal hexternal
    · rintro servers rfl
      exact List.filter_subset_self _
  | screenshot block =>
    exact (presents_runScreenshot block session).imp (fun _ _ h ↦ h) (fun _ h ↦ h) hsame
  | checkpoint block =>
    exact (presents_runCheckpoint block session).imp (fun _ _ h ↦ h) (fun _ h ↦ h) hsame

/-- No action stops with a refusal, and each shows facts with distinct names. -/
theorem runAction_yields (action : Action) : Shows (runAction action) :=
  Leaves.yields (leaves_runAction action)

theorem runs_abort : Runs abort :=
  Leaves.yields fun _ ↦ leaves_abort.imp (fun _ _ h ↦ ⟨h, trivial⟩) (fun _ h ↦ h.elim)
    fun _ h ↦ h

theorem runs_finish : Runs finish := by
  refine Leaves.yields fun _ ↦ leaves_finish.imp (fun _ _ h ↦ ⟨h, trivial⟩) ?_ fun _ h ↦ h
  rintro cause ⟨-, rfl⟩
  rfl

theorem runs_dropAll : Runs dropAll :=
  Leaves.yields fun _ ↦ leaves_dropAll.imp (fun _ _ h ↦ ⟨h, trivial⟩) (fun _ h ↦ h.elim)
    fun _ h ↦ h

end Session

end Runbook
