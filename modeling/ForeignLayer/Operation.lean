import ForeignLayer.Operation.Row
import ForeignLayer.Predicate.Plan

/-!
# Operations

An operation on a table starts with a plan and goes on as a scan or as a modification. The plan
says which predicates the layer takes care of and estimates the number of rows; a scan works the
same plan out again, hands it to the layer and reads rows; a modification writes them.

A step acts on an operation together with the contents of its layer. Both keep what was done before
a fault: a feature that could not be read stays read, a filter that was set before another one
was refused stays set, and a write that the layer refused settles that there are no more.
-/

namespace ForeignLayer

open Catalog Predicate

namespace Operation

/-- What a plan estimates. -/
structure Estimate where
  rows : Nat
  startupCost : Number.Double
  totalCost : Number.Double
  /-- Which of the predicates the layer takes care of. -/
  pushdown : List Bool
deriving DecidableEq, Repr

/-- What a scan goes by. -/
structure Scan where
  /-- The attribute filter of the layer. -/
  filter : Option String
  spatial : Option SpatialFilter
  params : Parameters
  /-- The number of rows read since the scan was started. -/
  rows : Nat

/-- The phase of an operation. -/
inductive Phase where
  | plan (estimate : Estimate)
  | scan (scan : Scan)
  | modify

/-- The phase without what belongs to it. -/
def Phase.stage : Phase → Stage
  | plan _ => .plan
  | scan _ => .scan
  | modify => .modify

end Operation

open Operation in
/-- An operation on a table. -/
structure Operation where
  tableId : Nat
  connection : Connection
  table : Catalog.Table
  phase : Phase

namespace Operation

/-! ## Acting on layers -/

/-- What changes the contents of a layer, and keeps the changes made before a fault. -/
abbrev LayerAction := ExceptT Fault (StateM Layer)

/-- Changes a layer, or leaves it as it is. -/
def change (f : Layer → Except Layer.Fault Layer) : LayerAction Unit := do
  match f (← get) with
  | .ok l => set l
  | .error reason => throw (.layer reason)

/-- Something a connection says. -/
def ofConnection {m : Type → Type} [Monad m] [MonadExceptOf Fault m] {α : Type}
    (r : Except Connection.Fault α) : m α :=
  match r with
  | .ok a => return a
  | .error reason => throw (.connection reason)

/-! ## Planning -/

/-- The number of features that a layer counts under the filters of a plan. Afterwards no filter is
set, unless the layer refuses the box. -/
def countRows (plan : Predicate.Plan) : LayerAction (Option Nat) := do
  match (← get).changeFilter plan.filter with
  | .error _ =>
    modify Layer.clearFilter
    return none
  | .ok l =>
    set l
    if let some f := plan.spatial then change (·.setBox f.field f.box)
    let count := (← get).count? false
    modify fun l ↦ l.clearFilter.clearBox
    return count

/-- The estimated number of rows: the layer is asked only if it counts fast, and if that is
wanted. -/
def estimateRows (c : Connection) (plan : Predicate.Plan) (settings : Settings.Planner) :
    LayerAction Nat := do
  ofConnection c.checkLayer
  if settings.useFastFeatureCount && (← get).hasCapability Layer.fastFeatureCount then
    return (← countRows plan).getD settings.defaultRowEstimate
  else return settings.defaultRowEstimate

/-- The plan of some predicates for a table on a connection. -/
def planOf (table : Catalog.Table) (c : Connection) (predicates : List Expr)
    (bindings : Bindings) : Predicate.Plan :=
  .of ⟨table, c.encoding, bindings⟩ predicates

/-- Plans a scan. -/
def plan (tableId : Nat) (c : Connection) (table : Catalog.Table) (predicates : List Expr)
    (bindings : Bindings) (settings : Settings.Planner) : LayerAction Operation := do
  let plan := planOf table c predicates bindings
  let rows ← estimateRows c plan settings
  let cost := settings.startupCost
  return ⟨tableId, c, table, .plan ⟨rows, cost, cost.add (.ofInt rows), plan.consumed⟩⟩

/-! ## Leaving the plan -/

/-- Checks that an operation is still a plan. -/
def checkPlanned (op : Operation) : Result Unit :=
  match op.phase with
  | .plan _ => .ok ()
  | phase => .error (.misuse (.notPlanned phase.stage))

/-- Hands the filters of a plan to the layer and starts reading. -/
def applyFilters (plan : Predicate.Plan) : LayerAction Unit := do
  change (·.changeFilter plan.filter)
  match plan.spatial with
  | some f => change (·.setBox f.field f.box)
  | none => modify Layer.clearBox
  modify Layer.reset

/-- Starts the scan of a planned operation. -/
def startScan (op : Operation) (predicates : List Expr) (bindings : Bindings) :
    LayerAction Operation := do
  liftM op.checkPlanned
  let plan := planOf op.table op.connection predicates bindings
  ofConnection op.connection.checkLayer
  applyFilters plan
  return { op with phase := .scan ⟨plan.filter, plan.spatial, plan.params, 0⟩ }

/-- The fault of writing to a layer that may not be written to. -/
def notUpdateable (c : Connection) : Fault := .notUpdateable c.layerName c.settings.datasource

/-- Starts the modification of a planned operation. -/
def startModify (op : Operation) (l : Layer) : Result Operation := do
  op.checkPlanned
  let (updateable, connection) := op.connection.probe l
  if updateable then return { op with connection, phase := .modify }
  else throw (notUpdateable connection)

/-! ## Steps -/

/-- An operation with the contents of its layer. -/
structure Session where
  operation : Operation
  layer : Layer

/-- A step of an operation. -/
abbrev Step := ExceptT Fault (StateM Session)

/-- The connection of the operation. -/
def getConnection : Step Connection := return (← get).operation.connection

/-- Changes the connection of the operation. -/
def setConnection (c : Connection) : Step Unit :=
  modify fun s ↦ { s with operation := { s.operation with connection := c } }

/-- Changes the contents of the layer. -/
def setLayer (l : Layer) : Step Unit := modify fun s ↦ { s with layer := l }

/-- What a scan goes by; anything but a scan is misused. -/
def getScan (m : Misuse) : Step Scan := do
  match (← get).operation.phase with
  | .scan scan => return scan
  | _ => throw (.misuse m)

/-- Changes what a scan goes by. -/
def setScan (scan : Scan) : Step Unit :=
  modify fun s ↦ { s with operation := { s.operation with phase := .scan scan } }

/-- Checks that the operation is a modification; anything else is misused. -/
def checkModify (m : Misuse) : Step Unit := do
  match (← get).operation.phase with
  | .modify => return ()
  | _ => throw (.misuse m)

/-- Reads the next row that the layer lets through. -/
def nextRow : Step (Option Row) := do
  let scan ← getScan .readOutside
  ofConnection (← getConnection).checkLayer
  let (found, l) := (← get).layer.next
  setLayer l
  match found with
  | none => return none
  | some f =>
    let row ← liftM (rowOf (← get).operation.table f)
    setScan { scan with rows := scan.rows + 1 }
    return some row

/-- Starts the scan over, with the same filters. -/
def rescan : Step Unit := do
  let scan ← getScan .restartOutside
  ofConnection (← getConnection).checkLayer
  setLayer (← get).layer.reset
  setScan { scan with rows := 0 }

/-- Reads no more than a number of rows, up to the first fault. -/
def readRows : (count : Nat) → Session → List Row × Option Fault × Session
  | 0, s => ([], none, s)
  | count + 1, s =>
    match nextRow.run s with
    | (.ok none, s) => ([], none, s)
    | (.ok (some row), s) =>
      let (rows, fault, s) := readRows count s
      (row :: rows, fault, s)
    | (.error fault, s) => ([], some fault, s)

/-- Reads the rows that are left, up to the first fault. There are no more of them than features. -/
def readAll (s : Session) : List Row × Option Fault × Session :=
  readRows (s.layer.features.length + 1) s

/-! ## Writing -/

/-- The feature of a row to write. -/
def featureToWrite (row : Row) : Step Feature := do
  checkModify .writeOutside
  let table := (← get).operation.table
  if row.length ≠ table.columns.length then
    throw (.rowWidth table.columns.length row.length)
  ofConnection (← getConnection).checkLayer
  liftM (featureOf table (← get).layer.definition row)

/-- Checks that writes should be attempted. -/
def checkUpdateable : Step Unit := do
  let (updateable, c) := (← getConnection).probe (← get).layer
  setConnection c
  if !updateable then throw (notUpdateable c)

/-- Writes to the layer, and takes note if it refuses. -/
def write {α : Type} (f : Layer → Except Layer.Fault (α × Layer)) : Step α := do
  checkUpdateable
  match (← getConnection).checkLayer with
  | .error reason => throw (.connection reason)
  | .ok () =>
    match f (← get).layer with
    | .ok (a, l) =>
      setLayer l
      return a
    | .error reason =>
      setConnection (← getConnection).recordWriteFailure
      throw (.layer reason)

/-- Appends a row, and gives the id of its feature. -/
def insert (row : Row) : Step Int := do
  let f ← featureToWrite row
  write (·.create f)

/-- Replaces the feature that the row has the id of. -/
def update (row : Row) : Step Unit := do
  let f ← featureToWrite row
  if f.fid.isNone then throw (.noFid (← get).operation.table.name)
  write fun l ↦ (l.set f).map fun l ↦ ((), l)

/-- Deletes the feature with an id. -/
def delete (fid : Int) : Step Unit := do
  checkModify .deleteOutside
  write fun l ↦ (l.delete fid).map fun l ↦ ((), l)

end Operation

end ForeignLayer
