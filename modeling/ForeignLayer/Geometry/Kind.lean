import ForeignLayer.Text.Letter

/-!
# Geometry kinds and dimensions

The seven concrete kinds of geometry, the generic kind of a column that holds any of them, and
which ordinates a coordinate has beside X and Y.
-/

namespace ForeignLayer.Geometry

/-- The kinds of geometry; `geometry` stands for an unknown or mixed kind. -/
inductive Kind where
  | geometry
  | point
  | lineString
  | polygon
  | multiPoint
  | multiLineString
  | multiPolygon
  | geometryCollection
deriving DecidableEq, Repr

namespace Kind

/-- Every kind, in the order of the numbers that stand for them in binary. -/
def all : List Kind :=
  [geometry, point, lineString, polygon, multiPoint, multiLineString, multiPolygon,
    geometryCollection]

/-- The number that stands for a kind in binary. -/
def code : Kind → Nat
  | geometry => 0
  | point => 1
  | lineString => 2
  | polygon => 3
  | multiPoint => 4
  | multiLineString => 5
  | multiPolygon => 6
  | geometryCollection => 7

/-- The kind that a number stands for. -/
def ofCode? (n : Nat) : Option Kind := all[n]?

/-- Whether geometries of the kind are lists of further geometries. -/
def isCollection : Kind → Bool
  | multiPoint | multiLineString | multiPolygon | geometryCollection => true
  | _ => false

/-- The name of a kind. -/
def name : Kind → String
  | geometry => "Geometry"
  | point => "Point"
  | lineString => "LineString"
  | polygon => "Polygon"
  | multiPoint => "MultiPoint"
  | multiLineString => "MultiLineString"
  | multiPolygon => "MultiPolygon"
  | geometryCollection => "GeometryCollection"

/-- The kind with a name in any case of its letters; an unknown kind is the generic one. -/
def ofName? (text : String) : Option Kind :=
  if Text.sameFolded text "unknown" then some geometry
  else all.find? fun k ↦ Text.sameFolded text k.name

theorem ofCode?_code (k : Kind) : ofCode? k.code = some k := by cases k <;> rfl

theorem code_of_ofCode? {n : Nat} {k : Kind} (h : ofCode? n = some k) : k.code = n := by
  unfold ofCode? at h
  match n, h with
  | 0, h | 1, h | 2, h | 3, h | 4, h | 5, h | 6, h | 7, h => cases h; rfl

end Kind

/-- The ordinates of a coordinate. -/
inductive Dimensions where
  | xy
  | xyz
  | xym
  | xyzm
deriving DecidableEq, Repr

namespace Dimensions

/-- Whether a coordinate has a Z ordinate. -/
def hasZ : Dimensions → Bool
  | xyz | xyzm => true
  | _ => false

/-- Whether a coordinate has an M ordinate. -/
def hasM : Dimensions → Bool
  | xym | xyzm => true
  | _ => false

/-- The dimensions with the given ordinates beside X and Y. -/
def of (hasZ hasM : Bool) : Dimensions :=
  match hasZ, hasM with
  | false, false => xy
  | true, false => xyz
  | false, true => xym
  | true, true => xyzm

/-- The number of ordinates of a coordinate. -/
def ordinates : Dimensions → Nat
  | xy => 2
  | xyz | xym => 3
  | xyzm => 4

@[simp] theorem hasZ_of (z m : Bool) : (of z m).hasZ = z := by cases z <;> cases m <;> rfl

@[simp] theorem hasM_of (z m : Bool) : (of z m).hasM = m := by cases z <;> cases m <;> rfl

end Dimensions

end ForeignLayer.Geometry
