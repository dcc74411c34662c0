import PageServer.Store.Cell

/-!
How many pages tables take.

A row is written as a record: the kinds of its cells, then their contents. Records fill a page from
row to row; one that does not fit starts another page, and what is left of a long one goes on in
pages of its own.
-/

namespace PageServer.Store

/-- How many bytes a page has. -/
def pageSize : Nat := 4096

/-- How many bytes a number takes, seven bits in each but the ninth. -/
def numberSize (n : Nat) : Nat := if n = 0 then 1 else min 9 ((Nat.log2 n + 7) / 7)

/-- How many bytes the content of a whole number takes. -/
def contentSize (n : Int) : Nat :=
  if n = 0 || n = 1 then 0
  else if -128 ≤ n && n < 128 then 1
  else if -32768 ≤ n && n < 32768 then 2
  else if -8388608 ≤ n && n < 8388608 then 3
  else if -2147483648 ≤ n && n < 2147483648 then 4
  else if -140737488355328 ≤ n && n < 140737488355328 then 6
  else 8

/-- How many bytes a cell takes: for its kind, and for its content. -/
def cellSizes : Cell → Nat × Nat
  | .null => (1, 0)
  | .int n => (1, contentSize n)
  | .flag _ => (1, 0)
  | .real _ => (1, 8)
  | .text content => (numberSize (2 * content.utf8ByteSize + 13), content.utf8ByteSize)
  | .blob bytes => (numberSize (2 * bytes.length + 12), bytes.length)

/-- How many bytes a record takes. -/
def recordSize (cells : List Cell) : Nat :=
  let sizes := cells.map cellSizes
  let kinds := sizes.foldl (fun total size => total + size.1) 0
  let contents := sizes.foldl (fun total size => total + size.2) 0
  -- The length of the kinds counts itself.
  let counted := kinds + numberSize (kinds + 1)
  counted + contents

/-- How many bytes of a record stay in its page, and how many pages the others take. -/
def overflow (record : Nat) : Nat × Nat :=
  let most := pageSize - 35
  if record ≤ most then (record, 0)
  else
    let least := (pageSize - 12) * 32 / 255 - 23
    -- As much stays as leaves whole pages for the rest, if that fits at all.
    let fitting := least + (record - least) % (pageSize - 4)
    let kept := if fitting ≤ most then fitting else least
    (kept + 4, (record - kept + (pageSize - 4) - 1) / (pageSize - 4))

/-- Pages that are being filled. -/
structure Filling where
  /-- How many bytes are left in the last page of rows. -/
  room : Nat
  /-- How many pages there are beyond the first. -/
  extra : Nat := 0
  /-- Whether the first page holds rows itself. -/
  single : Bool := true

/-- Adds a row of a number; the first page becomes a list of pages when a second one is needed. -/
def Filling.add (filling : Filling) (number : Int) (cells : List Cell) : Filling :=
  let record := recordSize cells
  let (kept, pages) := overflow record
  -- A negative number is stored as the large one with its bits.
  let place := numberSize (if number < 0 then Nat.pow 2 63 else number.toNat)
  -- Two more bytes tell where the row starts.
  let size := max 4 (numberSize record + place + kept) + 2
  if size ≤ filling.room then
    { filling with room := filling.room - size, extra := filling.extra + pages }
  else
    { room := pageSize - 8 - size
      extra := filling.extra + pages + (if filling.single then 2 else 1)
      single := false }

/-- How many pages rows take beyond the first, of which a part is taken already. -/
def extraPages (taken : Nat) (rows : List (Int × List Cell)) : Nat :=
  (rows.foldl (fun (filling : Filling) row => filling.add row.1 row.2)
    ({ room := pageSize - 8 - taken } : Filling)).extra

end PageServer.Store
