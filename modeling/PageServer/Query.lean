import PageServer.Datum
import PageServer.Ty

/-! Table declarations and the queries a program asks of its tables. -/

namespace PageServer

/-- A declared table: its name and its columns. -/
structure Table where
  name : String
  columns : Fields Ty

/-- A query over one table. -/
structure Query where
  table : String
  columns : Fields Ty
  /-- Conditions that must all hold, each with its own placeholders. -/
  conditions : List String := []
  /-- Columns to sort by, descending where the datum counts as true. -/
  order : Fields Datum := []
  /-- The most rows to give; nothing for no limit. -/
  limit : Datum := .null

namespace Query

/-- The query for every column of a table, in declared order. -/
def ofTable (table : Table) : Query := { table := table.name, columns := table.columns }

/-- Whether two lists of sort columns agree. -/
def sameOrder : Fields Datum → Fields Datum → Bool
  | [], [] => true
  | (a, x) :: as, (b, y) :: bs => a == b && x.same y && sameOrder as bs
  | _, _ => false

/-- Whether two queries agree in every part. -/
def same (a b : Query) : Bool :=
  a.table == b.table && Ty.sameFields a.columns b.columns && a.conditions == b.conditions &&
    sameOrder a.order b.order && a.limit.same b.limit

end Query

end PageServer
