import ForeignLayer.Column.Fault
import ForeignLayer.Connection

/-!
# Faults of operations

Why a step of an operation fails. Steps that do not fit the phase of an operation, and tables that
do not fit the layer, are mistakes of the caller and are reported as such; everything else comes
from the layer, from the connection or from the values of a row.
-/

namespace ForeignLayer.Operation

/-- The phases of an operation. -/
inductive Stage where
  | plan
  | scan
  | modify
deriving DecidableEq, Repr

/-- The name of a phase in messages. -/
def Stage.name : Stage → String
  | plan => "Plan"
  | scan => "Exec"
  | modify => "Modify"

/-- Mistakes of the caller. -/
inductive Misuse where
  /-- A row is read outside of a scan. -/
  | readOutside
  /-- A scan is restarted that is none. -/
  | restartOutside
  /-- A feature is deleted outside of a modification. -/
  | deleteOutside
  /-- A row is written outside of a modification. -/
  | writeOutside
  /-- An operation leaves the planning phase twice. -/
  | notPlanned (stage : Stage)
  /-- A geometry column has no conversions. -/
  | noConversions (column : String)
  /-- A column is bound to a field that the layer does not have. -/
  | missingField (column : String) (index : Nat)
deriving DecidableEq, Repr

/-- What went wrong, for the report of a mistake. -/
def Misuse.summary : Misuse → String
  | readOutside => "next_row() called outside of a scan"
  | restartOutside => "rescan() called outside of a scan"
  | deleteOutside => "delete() called outside of a modify operation"
  | writeOutside => "Rows can only be written during a modify operation"
  | notPlanned stage => "Expected a plan state but got " ++ stage.name ++ " state"
  | noConversions column => "Geometry column '" ++ column ++ "' has no conversions"
  | missingField column index =>
    "Column '" ++ column ++ "' maps to missing layer field " ++ toString index

/-- The report of a mistake. -/
def Misuse.message (m : Misuse) : String :=
  "Sedona OGR internal error: " ++ m.summary ++ ".\n" ++
    "This issue was likely caused by a bug in the OGR bridge. " ++
    "Please help us to resolve this by filing a bug report in our issue tracker: " ++
    "https://github.com/apache/sedona-db/issues"

/-- Why a step of an operation fails. -/
inductive Fault where
  | misuse (m : Misuse)
  /-- The layer may not be written to. -/
  | notUpdateable (layer source : String)
  /-- A row has another number of values than the table has columns. -/
  | rowWidth (expected actual : Nat)
  /-- A row without id cannot replace a feature. -/
  | noFid (table : String)
  /-- A type has no null. -/
  | noNull (t : DataType)
  /-- A value of a row does not convert. -/
  | column (reason : Column.Fault)
  /-- The layer refuses a filter or a write. -/
  | layer (reason : Layer.Fault)
  /-- The connection cannot be used. -/
  | connection (reason : Connection.Fault)

/-- The wording of a fault. -/
def Fault.message : Fault → String
  | misuse m => m.message
  | notUpdateable l s => "Layer '" ++ l ++ "' of '" ++ s ++ "' is not updateable"
  | rowWidth expected actual =>
    "Expected " ++ toString expected ++ " values but got " ++ toString actual
  | noFid table => "Can't update '" ++ table ++ "' without a non-null feature id column"
  | noNull t => "There is no null of type " ++ t.name
  | column reason => reason.message
  | layer reason => reason.message
  | connection reason => reason.message

end ForeignLayer.Operation
