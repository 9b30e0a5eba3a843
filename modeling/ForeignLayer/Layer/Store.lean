import ForeignLayer.Filter.Reader
import ForeignLayer.Layer.Fault
import ForeignLayer.Layer.Feature

/-!
# Layers

A layer holds its features in order, together with the filters that are set on it and the place
where reading goes on. A filter stays until it is replaced or cleared, and reading shows only the
features that match both filters. What is refused changes nothing.

A feature that is created without an id gets one that is greater than every id the layer has had;
the ids of deleted features do not come back.
-/

namespace ForeignLayer

/-- A layer with its contents. -/
structure Layer where
  definition : Layer.Definition
  features : List Feature := []
  capabilities : List String := []
  /-- The attribute filter, as text and as its meaning. -/
  filter : Option (String × Filter.Condition) := none
  /-- How often the attribute filter was set or cleared. -/
  filterChanges : Nat := 0
  /-- The spatial filter: the index of a geometry field and a box. -/
  spatial : Option (Nat × Box) := none
  /-- The place of the feature that is read next. -/
  cursor : Nat := 0
  /-- How often reading was started over. -/
  resets : Nat := 0
  /-- Whether the layer takes no attribute filters. -/
  rejectsFilters : Bool := false
  /-- Whether the layer takes no writes. -/
  failsWrites : Bool := false
  /-- The id of the next feature that has none. -/
  nextFid : Int := 1

namespace Layer

/-! ## Capabilities -/

/-- Features can be replaced. -/
def randomWrite : String := "RandomWrite"

/-- Features can be appended. -/
def sequentialWrite : String := "SequentialWrite"

/-- Features can be deleted. -/
def deleteFeature : String := "DeleteFeature"

/-- Features can be counted without reading them. -/
def fastFeatureCount : String := "FastFeatureCount"

/-- Whether the layer has a capability. -/
def hasCapability (l : Layer) (capability : String) : Bool := l.capabilities.contains capability

/-! ## Filters -/

/-- Whether a feature matches both filters. -/
def isMatch (l : Layer) (f : Feature) : Bool :=
  (match l.filter with
    | some (_, condition) => condition.holds f.fields
    | none => true) &&
  (match l.spatial with
    | some (_, box) => f.overlaps box
    | none => true)

/-- Sets the attribute filter to a text. -/
def setFilter (l : Layer) (text : String) : Except Fault Layer :=
  if l.rejectsFilters then .error (.rejected text)
  else match Filter.Condition.read l.definition text with
    | .error reason => .error (.filter reason)
    | .ok condition =>
      .ok { l with filter := some (text, condition), filterChanges := l.filterChanges + 1 }

/-- Clears the attribute filter. -/
def clearFilter (l : Layer) : Layer :=
  { l with filter := none, filterChanges := l.filterChanges + 1 }

/-- Sets the attribute filter to a text, or clears it. -/
def changeFilter (l : Layer) : Option String → Except Fault Layer
  | some text => l.setFilter text
  | none => .ok l.clearFilter

/-- Sets the spatial filter. -/
def setBox (l : Layer) (field : Nat) (box : Box) : Except Fault Layer :=
  if field < l.definition.geometryFields.length then .ok { l with spatial := some (field, box) }
  else .error (.noGeometryField field)

/-- Clears the spatial filter. -/
def clearBox (l : Layer) : Layer := { l with spatial := none }

/-! ## Reading -/

/-- The number of features that match the filters. -/
def count (l : Layer) : Nat := l.features.countP l.isMatch

/-- The number of features that match the filters, if the layer counts fast or is forced to. -/
def count? (l : Layer) (force : Bool) : Option Nat :=
  if force || l.hasCapability fastFeatureCount then some l.count else none

/-- Starts reading over. -/
def reset (l : Layer) : Layer := { l with cursor := 0, resets := l.resets + 1 }

/-- The first feature that meets a test, and the place behind it, or behind all features. -/
def seek (test : Feature → Bool) (place : Nat) : List Feature → Option Feature × Nat
  | [] => (none, place)
  | f :: rest => if test f then (some f, place + 1) else seek test (place + 1) rest

/-- The next feature that matches the filters. -/
def next (l : Layer) : Option Feature × Layer :=
  let (found, place) := seek l.isMatch l.cursor (l.features.drop l.cursor)
  (found, { l with cursor := place })

/-! ## Writing -/

/-- Checks that the layer takes writes. -/
def checkWritable (l : Layer) : Except Fault Unit :=
  if l.failsWrites then .error .readOnly else .ok ()

/-- The place of the feature with an id. -/
def place? (l : Layer) (fid : Int) : Option Nat := l.features.findIdx? fun f ↦ f.fid == some fid

/-- The id for the next feature after an id was taken. The greatest id has none after it. -/
def fidAfter (next fid : Int) : Int := if fid = Feature.maxFid then next else max next (fid + 1)

/-- Appends a feature under an id. -/
def append (l : Layer) (f : Feature) (fid : Int) : Layer :=
  { l with features := l.features ++ [{ f with fid := some fid }],
           nextFid := fidAfter l.nextFid fid }

/-- Adds a feature to the contents that a layer starts with. -/
def add (l : Layer) (f : Feature) : Layer := l.append f (f.fid.getD l.nextFid)

/-- Creates a feature, under its own id or else the next one. -/
def create (l : Layer) (f : Feature) : Except Fault (Int × Layer) := do
  l.checkWritable
  match f.fid with
  | some fid =>
    if (l.place? fid).isSome then throw (.taken fid)
    return (fid, l.append f fid)
  | none => return (l.nextFid, l.append f l.nextFid)

/-- Replaces the feature that has the same id. -/
def set (l : Layer) (f : Feature) : Except Fault Layer := do
  l.checkWritable
  match f.fid with
  | none => throw .noFid
  | some fid =>
    match l.place? fid with
    | none => throw (.missing fid)
    | some i => return { l with features := l.features.set i f }

/-- Deletes the feature with an id. -/
def delete (l : Layer) (fid : Int) : Except Fault Layer := do
  l.checkWritable
  match l.place? fid with
  | none => throw (.missing fid)
  | some i => return { l with features := l.features.eraseIdx i }

end Layer

end ForeignLayer
