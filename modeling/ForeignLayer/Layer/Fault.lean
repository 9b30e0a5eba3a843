import ForeignLayer.Filter.Fault
import ForeignLayer.Number.Text

/-!
# Faults of layers

Why a layer refuses a filter or a write.
-/

namespace ForeignLayer.Layer

/-- Why a layer refuses something. -/
inductive Fault where
  /-- The layer takes no attribute filters. -/
  | rejected (text : String)
  /-- The text is no filter of the layer. -/
  | filter (reason : Filter.Fault)
  /-- There is no geometry field with the index. -/
  | noGeometryField (index : Nat)
  /-- The layer takes no writes. -/
  | readOnly
  /-- There is no feature with the id. -/
  | missing (fid : Int)
  /-- There is a feature with the id already. -/
  | taken (fid : Int)
  /-- A feature without id cannot replace another one. -/
  | noFid
deriving DecidableEq, Repr

/-- The wording of a fault. -/
def Fault.message : Fault → String
  | rejected text =>
    "Failed to parse attribute filter " ++ Text.quoteOption (some text)
  | filter reason => reason.message
  | noGeometryField index => "Layer has no geometry field " ++ toString index
  | readOnly => "Layer is read-only"
  | missing fid => "Feature " ++ Number.integerText fid ++ " does not exist"
  | taken fid => "Feature " ++ Number.integerText fid ++ " already exists"
  | noFid => "Can't set a feature without a feature id"

end ForeignLayer.Layer
