import ForeignLayer.Filter.Token
import ForeignLayer.Layer.FieldType
import ForeignLayer.Value.Number

/-!
# Faults of filters

Why a text is no filter of a layer.
-/

namespace ForeignLayer.Filter

/-- Why a text is no filter. -/
inductive Fault where
  /-- The text cannot be cut into tokens. -/
  | token (reason : TokenFault) (text : String)
  /-- A token is left after the filter. -/
  | trailing (token : Option Token) (text : String)
  /-- A bracket is not closed. -/
  | noClosing (token : Option Token)
  /-- There is neither a field nor a bracket. -/
  | noOperand (token : Option Token)
  /-- The layer has no field of the name. -/
  | unknownField (layer name : String)
  /-- A test for null is not complete. -/
  | noNull
  /-- A field is not compared with anything. -/
  | noComparison (field : String) (token : Option Token)
  /-- A comparison has no literal. -/
  | noLiteral (field : String)
  /-- A literal does not go with the type of the field. -/
  | incomparable (type : FieldType) (token : Token)
  /-- A literal cannot be read as a value of the field. -/
  | unreadable (reason : CastFault)
deriving DecidableEq, Repr

/-- The wording of a fault. -/
def Fault.message : Fault → String
  | token .unterminatedName text => "Unterminated identifier in " ++ text
  | token .unterminatedText text => "Unterminated string in " ++ text
  | token (.unexpected c) text => "Unexpected character '" ++ c.toString ++ "' in " ++ text
  | trailing t text =>
    "Unexpected " ++ Token.describe? t ++ " in attribute filter " ++ text
  | noClosing t => "Expected ')' but got " ++ Token.describe? t
  | noOperand t => "Expected a field or '(' but got " ++ Token.describe? t
  | unknownField layer name => "Layer '" ++ layer ++ "' has no field '" ++ name ++ "'"
  | noNull => "Expected NULL after IS"
  | noComparison field t =>
    "Expected a comparison after '" ++ field ++ "' but got " ++ Token.describe? t
  | noLiteral field => "Missing value after '" ++ field ++ "'"
  | incomparable type t => "Can't compare a " ++ type.name ++ " field with " ++ t.description
  | unreadable _ => "The literal cannot be read"

end ForeignLayer.Filter
