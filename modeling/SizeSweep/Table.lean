import SizeSweep.Aggregate
import SizeSweep.Csv
import SizeSweep.OsFault

/-!
Results read back.  A table has the metric columns of its header and its rows in file order.  The
reader accepts exactly the rectangular tables of numbers whose first column is headed `size`, and
reports the first fault otherwise.
-/

namespace SizeSweep

/-- A results file in memory. -/
structure Table where
  columns : List String
  rows : List Row
deriving DecidableEq

namespace Table

/-- Why a file is not a list of equally long records of text.  Records count from 0, the header. -/
inductive RecordFault where
  /-- A record is not as long as the header. -/
  | unequalLength (record : Nat) (start : Csv.Position) (found expected : Nat)
  /-- A field is no text after so many good bytes. -/
  | invalidText (record : Nat) (start : Csv.Position) (field good : Nat)
  | unreadable (fault : OsFault)
deriving DecidableEq

def RecordFault.message : RecordFault → String
  | unequalLength record start found expected =>
    s!"CSV error: record {record} (line: {start.line}, byte: {start.byte}): found record with " ++
      s!"{found} fields, but the previous record has {expected} fields"
  | invalidText record start field good =>
    s!"CSV parse error: record {record} (line {start.line}, field: {field}, " ++
      s!"byte: {start.byte}): invalid utf-8: invalid UTF-8 in field {field} near byte index {good}"
  | unreadable fault => fault.message

inductive Fault where
  | records (fault : RecordFault)
  /-- A field is no number where one is needed. -/
  | invalidField (line : Nat) (column value : String)
  | missingSizeColumn
deriving DecidableEq

def Fault.message : Fault → String
  | records fault => s!"failed to read results: {fault.message}"
  | invalidField line column value => s!"line {line}: invalid value `{value}` in column `{column}`"
  | missingSizeColumn => s!"results header does not start with `{Metric.sizeColumn}`"

def Fault.causes : Fault → List String
  | records fault => [fault.message]
  | _ => []

/-! ### Reading -/

/-- The fields of a record as trimmed texts, or the first field that is no text with the number of
its good bytes.  The first field given counts as field `index`. -/
def texts (index : Nat) : List Bytes → Except (Nat × Nat) (List String)
  | [] => .ok []
  | field :: rest =>
    match Text.decode field with
    | .error good => .error (index, good)
    | .ok text => (texts (index + 1) rest).map (Text.trimmed text :: ·)

/-- The values of a record in line `line`, one per column. -/
def values (line : Nat) : List String → List String → Except Fault (List Binary64)
  | column :: columns, raw :: raws =>
    match Binary64.ofText? raw with
    | none => .error (.invalidField line column raw)
    | some x => (values line columns raws).map (x :: ·)
  | _, _ => .ok []

/-- The row of a record with number `index` under a header.  The good bytes of a field that is no
text are counted from its first byte that is not blank. -/
def row (columns : List String) (index : Nat) (record : Csv.Record) : Except Fault Row :=
  let expected := columns.length + 1
  if record.fields.length ≠ expected then
    .error (.records (.unequalLength index record.start record.fields.length expected))
  else match texts 0 (record.fields.map Text.trimBytes) with
    | .error (field, good) => .error (.records (.invalidText index record.start field good))
    | .ok [] => .error .missingSizeColumn
    | .ok (first :: rest) =>
      match size? first with
      | none => .error (.invalidField record.start.line Metric.sizeColumn first)
      | some size => (values record.start.line columns rest).map fun values => ⟨size, values⟩

/-- The rows of records that count from `index`. -/
def rowsFrom (columns : List String) (index : Nat) : List Csv.Record → Except Fault (List Row)
  | [] => .ok []
  | record :: rest =>
    match row columns index record with
    | .error fault => .error fault
    | .ok first => (rowsFrom columns (index + 1) rest).map (first :: ·)

/-- The table that records form, the first of them its header. -/
def ofRecords : List Csv.Record → Except Fault Table
  | [] => .error .missingSizeColumn
  | header :: records =>
    match texts 0 header.fields with
    | .error (field, good) => .error (.records (.invalidText 0 header.start field good))
    | .ok [] => .error .missingSizeColumn
    | .ok (first :: columns) =>
      if first = Metric.sizeColumn then
        (rowsFrom columns 1 records).map fun rows => ⟨columns, rows⟩
      else .error .missingSizeColumn

def ofBytes (bs : Bytes) : Except Fault Table := ofRecords (Csv.records bs)

/-- The table of a file, given what reading the file gave. -/
def ofFile : Except OsFault Bytes → Except Fault Table
  | .error fault => .error (.records (.unreadable fault))
  | .ok bs => ofBytes bs

/-! ### Queries -/

def sizes (table : Table) : List UInt64 := table.rows.map Row.size

/-- The place of the first column with a name. -/
def columnIndex? (table : Table) (column : String) : Option Nat :=
  table.columns.findIdx? (· = column)

/-- The value of a column at a size, the last row of a size counting. -/
def value? (table : Table) (size : UInt64) (column : String) : Option Binary64 :=
  (table.columnIndex? column).bind fun index =>
    (table.rows.reverse.find? (·.size = size)).bind (·.values[index]?)

end Table

end SizeSweep
