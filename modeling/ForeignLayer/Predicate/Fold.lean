import ForeignLayer.Geometry.Value
import ForeignLayer.Predicate.Expr

/-!
# Constant geometries

Geometries that a predicate spells out: bytes, or a call of one of a few functions with constant
arguments, unless the function is volatile. All but one of the functions make a geometry and take an
optional tag behind their other arguments; the remaining one tags a geometry.

What is no such expression has no geometry, which is not a fault; an expression whose bytes or text
are no valid geometry is one.
-/

namespace ForeignLayer

open ForeignLayer.Geometry

/-- The functions that make a geometry. -/
inductive GeometryMaker where
  | fromText
  | fromBytes
  | point
  | envelope
deriving DecidableEq, Repr

namespace GeometryMaker

/-- The function with a name in any letter case. -/
def ofName? (name : String) : Option GeometryMaker :=
  match Text.lower name with
  | "st_geomfromtext" | "st_geomfromwkt" => some fromText
  | "st_geomfromwkb" => some fromBytes
  | "st_point" => some point
  | "st_makeenvelope" => some envelope
  | _ => none

/-- The number of arguments in front of the tag. -/
def arity : GeometryMaker → Nat
  | fromText | fromBytes => 1
  | point => 2
  | envelope => 4

/-- The geometry of constant arguments. -/
def make? (bindings : Bindings) : GeometryMaker → List Expr → Except Fault (Option Geometry)
  | fromText, e :: _ =>
    match e.text? bindings with
    | some text => some <$> Geometry.ofText text
    | none => return none
  | fromBytes, e :: _ =>
    match e.bytes? bindings with
    | some bs => some <$> Geometry.ofBytes bs
    | none => return none
  | point, x :: y :: _ =>
    match x.finite? bindings, y.finite? bindings with
    | some x, some y => some <$> Geometry.ofBytes (Wkb.Node.planePoint x y).bytes
    | _, _ => return none
  | envelope, a :: b :: c :: d :: _ =>
    match a.finite? bindings, b.finite? bindings, c.finite? bindings, d.finite? bindings with
    | some a, some b, some c, some d =>
      some <$> Geometry.ofBytes (Wkb.Node.ofBox ⟨a.min c, b.min d, a.max c, b.max d⟩).bytes
    | _, _, _, _ => return none
  | _, _ => return none

/-- The tag of a code, none for zero. -/
def tagOf (code : Int) : Option Srid := Srid.ofCode? (BitVec.ofInt 32 code)

/-- The geometry of constant arguments, with the tag that may follow them. -/
def makeTagged? (bindings : Bindings) (f : GeometryMaker) (args : List Expr) :
    Except Fault (Option Geometry) := do
  match ← f.make? bindings args, args[f.arity]? with
  | some g, some arg => return (arg.int32? bindings).map fun code ↦ g.withSrid (tagOf code)
  | g, _ => return g

end GeometryMaker

/-- The name of the function that tags a geometry. -/
def tagFunction : String := "st_setsrid"

/-- The geometry that an expression spells out. -/
def Expr.geometry? (bindings : Bindings) : Expr → Except Fault (Option Geometry)
  | call name volatility args =>
    if volatility = .volatile then return none
    else if Text.lower name = tagFunction then
      match args with
      | e :: code :: _ =>
        match code.int32? bindings with
        | none => return none
        | some code => do
          return (← e.geometry? bindings).map (·.withSrid (GeometryMaker.tagOf code))
      | _ => return none
    else match GeometryMaker.ofName? name with
      | some f => f.makeTagged? bindings args
      | none => return none
  | e =>
    match e.bytes? bindings with
    | some bs => some <$> Geometry.ofBytes bs
    | none => return none

end ForeignLayer
