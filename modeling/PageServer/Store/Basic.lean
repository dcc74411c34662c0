import PageServer.Store.Cell
import PageServer.Store.Fault
import PageServer.Store.Keyword
import PageServer.Store.Page

/-!
The store: tables of numbered rows, and the tables in which it records itself.

Its tables are made by the declarations of programs, and by nothing else. So views, triggers, indexes,
constraints, counted keys, and tables that are computed are left out, and every table has row numbers.
The numbers are those of `Relation.nextNumber`: what a store does once they are used up is left out. A
text in a cell is one of Unicode; halves of surrogate pairs are left out.
-/

namespace PageServer.Store

/-- A column of a stored table. -/
structure Column where
  name : String
  affinity : Affinity
  deriving DecidableEq, Repr

/-- A row: its number, which no other row of its table has, and its cells. -/
structure Row where
  number : Int
  cells : List Cell
  deriving DecidableEq, Repr

/-- A stored table; its rows stand in the order in which they were inserted. -/
structure Relation where
  name : String
  columns : List Column
  /-- The declaration as it was written, from the name on. -/
  declaration : String := ""
  /-- The first of its pages. -/
  page : Nat := 1
  rows : List Row := []
  deriving DecidableEq, Repr

namespace Relation

/-- The rows in the order of their numbers, in which they are read. -/
def scan (relation : Relation) : List Row :=
  relation.rows.mergeSort fun a b => decide (a.number ≤ b.number)

/--
The number of the next row that asks for none: one above the highest, at first one.

Beyond the greatest whole number of 64 bits this is no number that a row can have. What is done
there instead, drawing unused numbers at random, is left out.
-/
def nextNumber (relation : Relation) : Int :=
  match relation.rows with
  | [] => 1
  | first :: rest => rest.foldl (fun highest row => max highest row.number) first.number + 1

end Relation

/-- What a store counts: the last row that was inserted, and how many have been. -/
structure Tally where
  lastRow : Int := 0
  /-- How many rows the last insertion has inserted. -/
  changes : Nat := 0
  total : Nat := 0
  deriving DecidableEq, Repr

end PageServer.Store

namespace PageServer

/-- A store: its tables, no two of them of one name, and what it counts. -/
structure Store where
  relations : List Store.Relation := []
  tally : Store.Tally := {}
  deriving DecidableEq, Repr

namespace Store

/-- The table of a name. -/
def relation? (store : Store) (name : String) : Option Relation :=
  store.relations.find? fun relation => sameName relation.name name

/-- The columns of the tables in which the store records its tables. -/
def catalogueColumns : List Column :=
  [⟨"type", .text⟩, ⟨"name", .text⟩, ⟨"tbl_name", .text⟩, ⟨"rootpage", .integer⟩, ⟨"sql", .text⟩]

/-- The record of a table, by its place among the tables. -/
def catalogueRow (index : Nat) (relation : Relation) : Row :=
  { number := index + 1
    cells := [.text "table", .text relation.name, .text relation.name, .int relation.page,
      .text ("CREATE TABLE " ++ relation.declaration)] }

/-- How many pages a table takes beyond its first one. -/
def Relation.extraPages (relation : Relation) : Nat :=
  Store.extraPages 0 (relation.rows.map fun row => (row.number, row.cells))

/-- How many pages the store takes: one page and more for the record, then those of its tables. -/
def pages (store : Store) : Nat :=
  -- The first page starts with a hundred bytes about the whole store.
  let record := (store.relations.mapIdx catalogueRow).map fun row => (row.number, row.cells)
  store.relations.foldl (fun total relation => total + 1 + relation.extraPages)
    (1 + Store.extraPages 100 record)

/-- The store's own table of a name: the record of the tables, or that of passing tables. -/
def ownRelation? (store : Store) (name : String) : Option Relation :=
  match fold name with
  | "sqlite_master" | "sqlite_schema" =>
    some { name := "sqlite_master", columns := catalogueColumns,
           rows := store.relations.mapIdx catalogueRow }
  -- No passing table is ever made here, so the record of those stays empty.
  | "sqlite_temp_master" | "sqlite_temp_schema" =>
    some { name := "sqlite_temp_master", columns := catalogueColumns }
  | _ => none

/-- The table of a name, one of the store's own included. -/
def readable? (store : Store) (name : String) : Option Relation :=
  match store.relation? name with
  | some relation => some relation
  | none => store.ownRelation? name

/-- Refuses a reserved word where a name is due. -/
def readName (name : String) : Except Fault String :=
  if isKeyword (bareName name) then .error (.unexpected (bareName name)) else .ok (bareName name)

/-- Reads names in order, up to the first reserved word. -/
def readNames : List String → Except Fault (List String)
  | [] => .ok []
  | name :: rest => do
    let first ← readName name
    let others ← readNames rest
    return first :: others

/-- A statement that the store has accepted. -/
structure Prepared (α : Type) where
  /-- The value for each placeholder in turn, or why there is none. -/
  bindings : List (Except Fault Cell)
  /--
  What it does with the values: the store it leaves, and what it gives; nothing if it works on the
  statement without end.
  -/
  step : List Cell → Option (Except Fault (Store × α))

end Store

end PageServer
