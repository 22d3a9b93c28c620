import Runbook.Block.Server
import Runbook.Proofs.Arguments.Writing
import Runbook.Proofs.Block.Picture
import Runbook.Proofs.Document.Planning
/-!
# Names of servers

The block that stops a server finds it by name, which both blocks take from a field or else from
their bodies, each in its own way. The block that starts a server always has a command, so a body
gives a name on both sides. A name in a field, written with its quotes and backslashes escaped, is
read back whatever it is (`tokenize_write`).

The block that stops refuses an empty name, and the block that starts does not. So a server can be
named and stopped exactly when its name is not empty, and it is empty exactly when the block that
starts it says so (`parse_stopServer_of_startServer`, `stopServer_emptyName`).
-/

set_option autoImplicit false

namespace Runbook

namespace Arguments

open Text

/-- A single token that is written is read back. -/
theorem tokenize_write {token : Token} (hkey : IsKey token.key) :
    tokenize token.write.toList = .ok [token] := by
  have hspaced : spaced escape [token] = ' ' :: token.write.toList := by
    rw [spaced_cons, ← Token.toList_write]
    exact congrArg (' ' :: ·) (List.append_nil _)
  have hblank : dropBlanks (' ' :: token.write.toList) = dropBlanks token.write.toList := rfl
  rw [← tokenize_dropBlanks, ← hblank, ← hspaced, tokenize_dropBlanks]
  exact tokenize_spaced_escape (List.forall_mem_singleton.2 hkey)

end Arguments

namespace Block

open Arguments Text

namespace StopServer

/-- The arguments of a block that is given nothing but the name of a server, or not even that. The
server has five seconds to end. -/
def argumentsFor (name : Option String) : Arguments :=
  ⟨(name.map fun name ↦ ("name", Value.text name)).toList ++
    [("grace", .number ⟨false, 0x14000000000000, -50⟩)]⟩

theorem ofTokens_naming (name : Option String) :
    ofTokens schema (name.map fun name ↦ ⟨"name", some name⟩).toList = .ok (argumentsFor name) := by
  cases name <;> rfl

theorem text?_argumentsFor (name : Option String) :
    (argumentsFor name).text? "name" = name := by
  cases name <;> rfl

theorem span?_argumentsFor (name : Option String) :
    span? (argumentsFor name) "grace" = .ok (some defaultGrace) := by
  cases name <;> rfl

variable {arguments body : String} {name : Option String}

/-- A block that is given nothing but a name, by a field or else by its body, stops the server of
that name unless the name is empty. -/
theorem parse_of_argumentsFor (h : Arguments.parse schema arguments = .ok (argumentsFor name)) :
    parse arguments body =
      if name.getD (trim body) = "" then .error .noServerName
      else .ok ⟨name.getD (trim body), defaultGrace⟩ := by
  have hguard : ((argumentsFor name).text? "name" |>.getD (trim body)).isEmpty = true ↔
      name.getD (trim body) = "" := by
    rw [text?_argumentsFor, String.isEmpty_iff]
  unfold parse
  rw [h]
  by_cases hempty : name.getD (trim body) = ""
  · rw [if_pos hempty]
    exact if_pos (hguard.2 hempty)
  · rw [if_neg hempty]
    refine (if_neg (mt hguard.1 hempty)).trans ?_
    rw [text?_argumentsFor, span?_argumentsFor]
    rfl

/-- The arguments in which a name is written. -/
def naming (name : String) : String := Token.write ⟨"name", some name⟩

theorem parse_naming (name body : String) :
    parse (naming name) body =
      if name = "" then .error .noServerName else .ok ⟨name, defaultGrace⟩ := by
  refine @parse_of_argumentsFor _ _ (some name) ?_
  have hkey : IsKey "name" := by decide
  rw [Arguments.parse, naming, tokenize_write hkey]
  exact ofTokens_naming (some name)

theorem parse_unnamed (body : String) :
    parse "" body =
      if trim body = "" then .error .noServerName else .ok ⟨trim body, defaultGrace⟩ := by
  refine @parse_of_argumentsFor _ _ none ?_
  rw [Arguments.parse, String.toList_empty, tokenize_nil]
  exact ofTokens_naming none

end StopServer

/-- A server that is started goes by the name that its block is given, or else by the command that
is its body, which is not empty. -/
theorem StartServer.exists_name {arguments body : String} {start : StartServer}
    (h : StartServer.parse arguments body = .ok start) :
    ∃ given, Arguments.parse StartServer.schema arguments = .ok given ∧ trim body ≠ "" ∧
      start.name = (given.text? "name").getD (trim body) := by
  unfold StartServer.parse at h
  obtain ⟨given, hgiven, h⟩ := exists_of_bind_ok h
  obtain ⟨hcommand, h⟩ := of_guard_ok h
  obtain ⟨span, -, h⟩ := exists_of_bind_ok h
  cases h
  exact ⟨given, of_mapError_ok hgiven, fun hempty ↦ hcommand (String.isEmpty_iff.2 hempty), rfl⟩

/-- Bodies that differ in the blanks around them are the same without these. -/
theorem trim_eq_of_surrounds {body other : String} {inner : List Char}
    (hbody : Document.Surrounds body.toList inner)
    (hother : Document.Surrounds other.toList inner) :
    trim other = trim body := by
  rw [trim, trim, hbody.trim_eq, hother.trim_eq]

/-- A server that is started is stopped by the block that has its name in a field, with the quotes
and the backslashes escaped, and goes by the same name there, unless the name is empty. It is empty
exactly when the block that starts the server is given an empty name. When that block is given none,
the server is also stopped, and goes by the same name, by a block without a name whose body differs
in the blanks around it alone. -/
theorem parse_stopServer_of_startServer {arguments body : String} {start : StartServer}
    (h : StartServer.parse arguments body = .ok start) :
    (∀ other, StopServer.parse (StopServer.naming start.name) other =
      if start.name = "" then .error .noServerName
      else .ok ⟨start.name, StopServer.defaultGrace⟩) ∧
    ∃ given, Arguments.parse StartServer.schema arguments = .ok given ∧
      (start.name = "" ↔ given.text? "name" = some "") ∧
      (given.text? "name" = none → ∀ other inner, Document.Surrounds body.toList inner →
        Document.Surrounds other.toList inner →
        StopServer.parse "" other = .ok ⟨start.name, StopServer.defaultGrace⟩) := by
  refine ⟨StopServer.parse_naming start.name, ?_⟩
  obtain ⟨given, hgiven, hcommand, hname⟩ := StartServer.exists_name h
  refine ⟨given, hgiven, ?_, fun hnone other inner hbody hother ↦ ?_⟩
  · rw [hname]
    cases given.text? "name" with
    | none => exact iff_of_false hcommand nofun
    | some name => rw [Option.getD_some, Option.some.injEq]
  · rw [hnone, Option.getD_none] at hname
    rw [StopServer.parse_unnamed, trim_eq_of_surrounds hbody hother, if_neg hcommand, hname]

/-- A server whose name holds a quote and a backslash, and one that goes by its command. -/
theorem parse_stopServer_of_startServer_escaped :
    (∃ start, StartServer.parse "name=\"a \\\" \\\\\"" "run" = .ok start ∧
      StopServer.parse "name=\"a \\\" \\\\\"" "" = .ok ⟨start.name, StopServer.defaultGrace⟩) ∧
    ∃ start, StartServer.parse "" "  run -p 1\n" = .ok start ∧
      StopServer.parse "" "run -p 1\t" = .ok ⟨start.name, StopServer.defaultGrace⟩ := by
  have hnamed : (StartServer.parse "name=\"a \\\" \\\\\"" "run").toOption.map StartServer.name =
      some "a \" \\" := by decide +kernel
  have hunnamed : (StartServer.parse "" "  run -p 1\n").toOption.map StartServer.name =
      some "run -p 1" := by decide +kernel
  obtain ⟨start, hstart, hname⟩ := exists_of_toOption_map hnamed
  obtain ⟨unnamed, hunnamed, -⟩ := exists_of_toOption_map hunnamed
  refine ⟨⟨start, hstart, ?_⟩, unnamed, hunnamed, ?_⟩
  · have hstopped := (parse_stopServer_of_startServer hstart).1 ""
    have hwritten : StopServer.naming "a \" \\" = "name=\"a \\\" \\\\\"" := by decide +kernel
    rwa [hname, hwritten, if_neg (by decide), ← hname] at hstopped
  · obtain ⟨-, given, hgiven, -, hbody⟩ := parse_stopServer_of_startServer hunnamed
    have hnone : given.text? "name" = none := by
      have hread : (Arguments.parse StartServer.schema "").toOption.map (·.text? "name") =
          some none := by decide +kernel
      obtain ⟨found, hfound, hnone⟩ := exists_of_toOption_map hread
      rw [hgiven] at hfound
      cases hfound
      exact hnone
    have hblank {text : List Char} (h : text.all isBlank = true) : ∀ c ∈ text, isBlank c = true :=
      List.all_eq_true.1 h
    have hends : (∀ c ∈ "run -p 1".toList.head?, isBlank c = false) ∧
        ∀ c ∈ "run -p 1".toList.getLast?, isBlank c = false :=
      ⟨fun _ hc ↦ Option.some.inj hc ▸ rfl, fun _ hc ↦ Option.some.inj hc ▸ rfl⟩
    exact hbody hnone _ _ ⟨"  ".toList, "\n".toList, rfl, hblank rfl, hblank rfl, hends⟩
      ⟨[], "\t".toList, rfl, nofun, hblank rfl, hends⟩

/-- A server that is given an empty name starts and goes by it, and the block that has this name in
a field, which is how the first block has it, is refused. -/
theorem stopServer_emptyName :
    (StartServer.parse "name=\"\"" "sleep 30").toOption.map StartServer.name = some "" ∧
    StopServer.naming "" = "name=\"\"" ∧
    StopServer.parse "name=\"\"" "" = .error .noServerName := by
  decide +kernel

end Block

end Runbook
