import ForeignLayer.Catalog.Fault
import ForeignLayer.Operation.Fault

/-!
# Categories of faults

What a caller can do about a fault depends less on the fault than on where its cause lies: in what
was configured, in a text that was to be planned with, in the data, or in the caller itself. Every
fault of the library belongs to one category.
-/

namespace ForeignLayer

/-- Where the cause of a fault lies. -/
inductive Category where
  /-- In the settings, the schema, or the layer that they are for. -/
  | configuration
  /-- In a setting or in metadata that cannot be read. -/
  | unreadable
  /-- In a filter that does not fit the layer. -/
  | plan
  /-- In the data or in the source. -/
  | execution
  /-- In a value that does not convert. -/
  | cast
  /-- In a type that cannot be held. -/
  | unsupported
  /-- In a value that is no geometry. -/
  | notGeometry
  /-- In bytes or a text that are no valid geometry. -/
  | geometry
  /-- In bytes or a text that cannot be read as a geometry at all. -/
  | unreadableGeometry
  /-- In a value after which nothing can go on. -/
  | fatal
  /-- In the caller. -/
  | misuse
deriving DecidableEq, Repr

/-- The category of a fault of settings. -/
def Settings.Fault.category : Settings.Fault → Category
  | unreadable => .unreadable
  | _ => .configuration

/-- The category of a fault of conversions. -/
def Column.Fault.category : Column.Fault → Category
  | geometryStorage _ | unsupported _ => .configuration
  | noGeometry _ => .notGeometry
  | emptyMember | cast .broken => .fatal
  | cast _ => .cast
  | geometry .unreadable | geometry .malformedText => .unreadableGeometry
  | geometry _ => .geometry
  | _ => .execution

/-- The category of a fault of binding a table. -/
def Catalog.Fault.category : Catalog.Fault → Category
  | metadata => .unreadable
  | column reason => reason.category
  | _ => .configuration

/-- The category of a fault of filters. -/
def Filter.Fault.category : Filter.Fault → Category
  | unreadable _ => .cast
  | _ => .plan

/-- The category of a fault of layers. -/
def Layer.Fault.category : Layer.Fault → Category
  | rejected _ | noGeometryField _ => .plan
  | filter reason => reason.category
  | _ => .execution

/-- The category of a fault of connections. -/
def Connection.Fault.category : Connection.Fault → Category
  | noSource | noLayer => .configuration
  | settings reason => reason.category
  | _ => .execution

/-- The category of a fault of operations. -/
def Operation.Fault.category : Operation.Fault → Category
  | misuse _ => .misuse
  | noNull _ => .unsupported
  | column reason => reason.category
  | layer reason => reason.category
  | connection reason => reason.category
  | _ => .execution

end ForeignLayer
