/-!
# TOML items

What a TOML document holds: values, tables and arrays of tables, and how a header or a key puts
something into the tables that are there already.

A table remembers how it came to be, because that decides what may still be added to it. A header
may define a table that only stood in the path of another header, and dotted keys may extend a
table that dotted keys made. Nothing may be added to a table that is a value.
-/

set_option autoImplicit false

namespace Runbook.Toml

/-- How a table came to be. -/
inductive Origin where
  /-- By a header of its own. -/
  | header
  /-- In the path of the header of another table. -/
  | path
  /-- By a dotted key. -/
  | dotted
  /-- As a value. -/
  | inline
deriving DecidableEq, Repr

/-- What stands under a key. -/
inductive Item where
  | text (value : String)
  | integer (value : Int)
  | real
  | flag (value : Bool)
  | moment
  | array (items : List Item)
  | table (origin : Origin) (entries : List (String × Item))
  /-- The tables that headers in double brackets made, in order. -/
  | tables (elements : List (List (String × Item)))

/-- The entries of a table, in the order in which they were added. -/
abbrev Entries := List (String × Item)

/-- The item under a key. -/
def get? (entries : Entries) (key : String) : Option Item := entries.lookup key

/-- The entries with the item under a key replaced, or added at the end. -/
def set (entries : Entries) (key : String) (item : Item) : Entries :=
  if (get? entries key).isSome then
    entries.map fun entry => if entry.1 == key then (key, item) else entry
  else entries ++ [(key, item)]

/-- Changes the entries of the table that a header path leads to. A table that is missing is made,
and an array of tables stands for its last table. -/
def modifyAt (change : Entries → Option Entries) : List String → Entries → Option Entries
  | [], entries => change entries
  | key :: path, entries =>
    match get? entries key with
    | none => (modifyAt change path []).map fun inner => set entries key (.table .path inner)
    | some (.table .inline _) => none
    | some (.table origin inner) =>
      (modifyAt change path inner).map fun inner => set entries key (.table origin inner)
    | some (.tables elements) =>
      match elements.getLast? with
      | none => none
      | some last =>
        (modifyAt change path last).map fun last =>
          set entries key (.tables (elements.dropLast ++ [last]))
    | some _ => none

/-- Defines the table with a key, unless it is defined already. -/
def defineTable? (key : String) (entries : Entries) : Option Entries :=
  match get? entries key with
  | none => some (set entries key (.table .header []))
  | some (.table .path inner) => some (set entries key (.table .header inner))
  | some _ => none

/-- Adds a table to the array of tables with a key. -/
def addTable? (key : String) (entries : Entries) : Option Entries :=
  match get? entries key with
  | none => some (set entries key (.tables [[]]))
  | some (.tables elements) => some (set entries key (.tables (elements ++ [[]])))
  | some _ => none

/-- Adds an item under a dotted key. The last table on the way has to be one that dotted keys
made; at the start, where there is no way, any table will do. -/
def insert? (item : Item) : Bool → List String → Entries → Option Entries
  | _, [], _ => none
  | extensible, [key], entries =>
    if extensible && (get? entries key).isNone then some (set entries key item) else none
  | _, key :: path, entries =>
    match get? entries key with
    | none => (insert? item true path []).map fun inner => set entries key (.table .dotted inner)
    | some (.table .dotted inner) =>
      (insert? item true path inner).map fun inner => set entries key (.table .dotted inner)
    | some (.table .path inner) =>
      (insert? item false path inner).map fun inner => set entries key (.table .path inner)
    | some (.tables elements) =>
      match elements.getLast? with
      | none => none
      | some last =>
        (insert? item false path last).map fun last =>
          set entries key (.tables (elements.dropLast ++ [last]))
    | some _ => none

end Runbook.Toml
