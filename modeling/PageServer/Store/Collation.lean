import PageServer.Store.Cell
import PageServer.Store.Keyword

/-! How texts are compared. -/

namespace PageServer.Store

/-- A text without the given characters at its start, at its end, or at both. -/
def trimmed (left right : Bool) (marks : List Char) (text : List Char) : List Char :=
  let text := if left then text.dropWhile marks.contains else text
  if right then (text.reverse.dropWhile marks.contains).reverse else text

/-- How two texts are compared. -/
inductive Collation where
  | binary
  /-- ASCII letters in any case are one. -/
  | nocase
  /-- Spaces at the end do not count. -/
  | rtrim
  deriving DecidableEq, Repr

namespace Collation

/-- The collation of a name. -/
def ofName? (name : String) : Option Collation :=
  match fold name with
  | "binary" => some binary
  | "nocase" => some nocase
  | "rtrim" => some rtrim
  | _ => none

/-- The form of a text that is compared. -/
def key (collation : Collation) (text : String) : String :=
  match collation with
  | binary => text
  | nocase => fold text
  | rtrim => String.ofList (trimmed false true [' '] text.toList)

/-- The order of two cells, texts under a collation. -/
def order (collation : Collation) : Cell → Cell → Ordering
  | .text a, .text b => compare (collation.key a) (collation.key b)
  | a, b => a.order b

end Collation

end PageServer.Store
