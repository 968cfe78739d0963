import SizeSweep.Binary64.Printing
import SizeSweep.Files
import SizeSweep.Table

/-!
The results file of a sweep.  It has a fixed header and grows by one line per row.  A fresh store
discards what was there; a resumed one keeps it, byte for byte, if it is a table with the same
header.  Every operation takes what the path holds and gives the content to write.
-/

namespace SizeSweep

/-- A results file open for appending. -/
structure Store where
  path : String
  header : List String
deriving DecidableEq

namespace Store

/-- Why a results file cannot be used. -/
inductive Fault where
  | io (path : String) (fault : OsFault)
  | read (path : String) (fault : Table.Fault)
  /-- A row has another number of values than there are metrics. -/
  | rowWidth (expected found : Nat)
  | schemaMismatch (path : String) (expected found : List String)
deriving DecidableEq

def Fault.message : Fault → String
  | io path fault => s!"failed to write results to {path}: {fault.message}"
  | read path fault => s!"failed to read existing results {path}: {fault.message}"
  | rowWidth expected found =>
    s!"row has {found} metric values but the results file tracks {expected}"
  | schemaMismatch path expected found =>
    let expected := ",".intercalate expected
    let found := ",".intercalate found
    s!"{path} has header `{found}` but this sweep writes `{expected}`"

def Fault.causes : Fault → List String
  | io _ fault => [fault.message]
  | read _ fault => fault.message :: fault.causes
  | _ => []

def forMetrics (path : String) (metrics : List Metric) : Store := ⟨path, Metric.header metrics⟩

/-- Discards what the path holds and writes a header. -/
def fresh (store : Store) : Spot → Except Fault Bytes
  | .blocked fault => .error (.io store.path fault)
  | _ => .ok (Csv.line store.header)

/-- The content with a line feed at its end, added if there is none. -/
def terminated (bytes : Bytes) : Bytes :=
  if bytes.getLast? = some 0x0A then bytes else bytes ++ [0x0A]

/-- Keeps what the path holds if it is a table with the header of the store, and starts afresh
if it holds nothing.  Gives the content and the sizes recorded in it. -/
def resume (store : Store) : Spot → Except Fault (Bytes × List UInt64)
  | .blocked fault => .error (.io store.path fault)
  | .missing | .content [] => .ok (Csv.line store.header, [])
  | .content bytes =>
    match Table.ofBytes bytes with
    | .error fault => .error (.read store.path fault)
    | .ok table =>
      let found := Metric.sizeColumn :: table.columns
      if found = store.header then .ok (terminated bytes, table.sizes)
      else .error (.schemaMismatch store.path store.header found)

def rowLine (row : Row) : Bytes :=
  Csv.line (toString row.size :: row.values.map Binary64.text)

def append (store : Store) (row : Row) (spot : Spot) : Except Fault Bytes :=
  let expected := store.header.length - 1
  if row.values.length ≠ expected then .error (.rowWidth expected row.values.length)
  else match spot with
    | .blocked fault => .error (.io store.path fault)
    | .missing => .ok (rowLine row)
    | .content bytes => .ok (bytes ++ rowLine row)

end Store

end SizeSweep
