import Mathlib.Data.String.Basic
import Runbook.Session.Basic
/-!
# The registry of a session

The running servers stand in the order of their names, and no two have the same name: `Ordered` says
both at once. Adding a server whose name is free and taking one out keep it. What adding and taking
out do to the names is said by membership, `mem_names_insert` and `mem_names_erase`, which need no
order.
-/

set_option autoImplicit false

namespace Runbook.Session.Registry

variable {servers : Registry} {server : Server} {name : String}

/-! ### Names -/

theorem contains_eq_true : contains servers name = true ↔ name ∈ names servers := by
  unfold contains names
  rw [List.any_eq_true, List.mem_map]
  exact exists_congr fun server ↦ and_congr_right fun _ ↦ beq_iff_eq

theorem contains_eq_false : contains servers name = false ↔ name ∉ names servers := by
  rw [← contains_eq_true, Bool.not_eq_true]

theorem mem_names_insert (server : Server) (servers : Registry) (name : String) :
    name ∈ names (insert server servers) ↔ name = server.name ∨ name ∈ names servers := by
  induction servers with
  | nil => exact List.mem_cons
  | cons first rest ih =>
    rw [insert]
    split
    · exact List.mem_cons
    · change name ∈ first.name :: names (insert server rest) ↔
        name = server.name ∨ name ∈ first.name :: names rest
      rw [List.mem_cons, List.mem_cons, ih]
      exact or_left_comm

theorem mem_names_erase (servers : Registry) (gone name : String) :
    name ∈ names (erase servers gone) ↔ name ≠ gone ∧ name ∈ names servers := by
  simp only [names, erase, List.mem_map, List.mem_filter, bne_iff_ne]
  constructor
  · rintro ⟨server, ⟨hserver, hne⟩, rfl⟩
    exact ⟨hne, server, hserver, rfl⟩
  · rintro ⟨hne, server, hserver, rfl⟩
    exact ⟨server, ⟨hserver, hne⟩, rfl⟩

/-- A server that is found has the name that was looked for. -/
theorem mem_names_of_find? (h : find? servers name = some server) :
    server.name = name ∧ name ∈ names servers := by
  unfold find? at h
  have hname : server.name = name := by simpa using List.find?_some h
  exact ⟨hname, List.mem_map.2 ⟨server, List.mem_of_find?_eq_some h, hname⟩⟩

/-- A server that is not found has a name that no server has. -/
theorem not_mem_names_of_find? (h : find? servers name = none) : name ∉ names servers := by
  intro hname
  obtain ⟨server, hserver, rfl⟩ := List.mem_map.1 hname
  exact List.find?_eq_none.1 h server hserver (beq_self_eq_true server.name)

/-- Taking out a name that no server has changes nothing. -/
theorem erase_of_find? (h : find? servers name = none) : erase servers name = servers := by
  unfold find? at h
  refine List.filter_eq_self.2 fun server hserver ↦ ?_
  rw [bne, Bool.eq_false_of_not_eq_true (List.find?_eq_none.1 h server hserver)]
  rfl

/-! ### Order -/

/-- Servers in the order of their names, no two with the same name. -/
def Ordered (servers : Registry) : Prop := (names servers).Pairwise (· < ·)

theorem ordered_nil : Ordered [] := List.Pairwise.nil

theorem Ordered.erase (h : Ordered servers) (name : String) : Ordered (erase servers name) :=
  List.Pairwise.sublist (List.filter_sublist.map Server.name) h

/-- A server whose name is free is added at its place. -/
theorem Ordered.insert (h : Ordered servers) (hfree : server.name ∉ names servers) :
    Ordered (insert server servers) := by
  induction servers with
  | nil => exact List.pairwise_singleton _ _
  | cons first rest ih =>
    obtain ⟨hfirst, hrest⟩ := List.pairwise_cons.1 h
    obtain ⟨hne, hfreeRest⟩ : server.name ≠ first.name ∧ server.name ∉ names rest := by
      rw [names, List.map_cons, List.mem_cons, not_or] at hfree
      exact hfree
    rw [Registry.insert]
    split
    · next hlt =>
      refine List.pairwise_cons.2 ⟨fun name hname ↦ ?_, h⟩
      rcases List.mem_cons.1 hname with rfl | hname
      · exact hlt
      · exact hlt.trans (hfirst name hname)
    · next hlt =>
      have hbefore : first.name < server.name := lt_of_le_of_ne (not_lt.1 hlt) hne.symm
      refine List.pairwise_cons.2 ⟨fun name hname ↦ ?_, ih hrest hfreeRest⟩
      rcases (mem_names_insert server rest name).1 hname with rfl | hname
      · exact hbefore
      · exact hfirst name hname

end Runbook.Session.Registry
