import ForeignLayer.Number.Reading
import ForeignLayer.Number.Text
import ForeignLayer.Settings.Encoding

/-!
# Settings

The settings of a source, of the table bound to one of its layers, and of the estimates for
planning. They are set by texts under keys of two parts, a group and a setting, with a point between
them; whatever follows a further point is ignored.
-/

namespace ForeignLayer

open Number

namespace Settings

/-- The settings of a source. -/
structure Source where
  /-- What names the source. -/
  datasource : String := ""
  /-- The driver that opens it; without one every driver is tried. -/
  format : Option String := none
  /-- Options for the drivers at large. -/
  configOptions : Option String := none
  /-- Options for opening the source. -/
  openOptions : Option String := none
  /-- Whether the source may be written to. -/
  updateable : Bool := true
  encoding : Encoding := .utf8
deriving DecidableEq, Repr

/-- The settings of a table. -/
structure Table where
  /-- The layer that the table is bound to. -/
  layer : String := ""
  /-- Whether the table may be written to; without it the layer decides. -/
  updateable : Option Bool := none
  /-- The column of feature ids. -/
  fidColumn : Option String := none
  /-- The column of geometries. -/
  geometryColumn : Option String := none
deriving DecidableEq, Repr

/-- The settings of estimates. -/
structure Planner where
  /-- The number of rows where the layer does not tell. -/
  defaultRowEstimate : Nat := 1000
  /-- The cost of opening a layer. -/
  startupCost : Double := .ofInt 25
  /-- Whether a layer that counts fast is asked for a count. -/
  useFastFeatureCount : Bool := true
deriving DecidableEq, Repr

end Settings

/-- All settings. -/
structure Settings where
  source : Settings.Source := {}
  table : Settings.Table := {}
  planner : Settings.Planner := {}
deriving DecidableEq, Repr

namespace Settings

/-! ## Reading -/

/-- Reads a truth value in any letter case. -/
def readFlag (text : String) : Except Fault Bool :=
  match Text.lower text with
  | "true" => .ok true
  | "false" => .ok false
  | _ => .error .unreadable

/-- Reads a number of rows. -/
def readCount (text : String) : Except Fault Nat :=
  match readInteger 0 (UInt64.size - 1) text.toList with
  | .ok n => .ok n.toNat
  | .error _ => .error .unreadable

/-- Reads a cost. -/
def readCost (text : String) : Except Fault Double :=
  match readDouble? text.toList with
  | some x => .ok x
  | none => .error .unreadable

/-- Splits a key at its first point. -/
def splitKey (key : String) : String × String :=
  let (first, rest) := key.toList.span (· ≠ '.')
  (String.ofList first, String.ofList rest.tail)

/-- Changes a setting of a source. -/
def Source.set (s : Source) (key value : String) : Except Fault Source :=
  match key with
  | "datasource" => .ok { s with datasource := value }
  | "format" => .ok { s with format := some value }
  | "config_options" => .ok { s with configOptions := some value }
  | "open_options" => .ok { s with openOptions := some value }
  | "updateable" => do return { s with updateable := ← readFlag value }
  | "character_encoding" => do return { s with encoding := ← Encoding.read value }
  | key => .error (.unknown key .source)

/-- Changes a setting of a table. -/
def Table.set (s : Table) (key value : String) : Except Fault Table :=
  match key with
  | "layer" => .ok { s with layer := value }
  | "updateable" => do return { s with updateable := some (← readFlag value) }
  | "fid_column" => .ok { s with fidColumn := some value }
  | "geometry_column" => .ok { s with geometryColumn := some value }
  | key => .error (.unknown key .table)

/-- Changes a setting of the estimates. -/
def Planner.set (s : Planner) (key value : String) : Except Fault Planner :=
  match key with
  | "default_row_estimate" => do return { s with defaultRowEstimate := ← readCount value }
  | "startup_cost" => do return { s with startupCost := ← readCost value }
  | "use_fast_feature_count" => do return { s with useFastFeatureCount := ← readFlag value }
  | key => .error (.unknown key .planner)

/-- Changes the setting under a key. -/
def set (s : Settings) (key value : String) : Except Fault Settings :=
  let (group, rest) := splitKey key
  let name := (splitKey rest).1
  match group with
  | "server" => do return { s with source := ← s.source.set name value }
  | "table" => do return { s with table := ← s.table.set name value }
  | "planner" => do return { s with planner := ← s.planner.set name value }
  | group => .error (.unknown group .all)

/-- The settings that pairs of keys and values give, one after the other. -/
def ofPairs (pairs : Pairs) : Except Fault Settings :=
  pairs.foldlM (fun s p ↦ s.set p.1 p.2) {}

/-! ## Listing -/

/-- The word for a truth value. -/
def flagText (b : Bool) : String := if b then "true" else "false"

/-- Every setting under its full key, in the order of declaration; a setting without value has
none. -/
def entries (s : Settings) : List (String × Option String) :=
  let within (group : String) (members : List (String × Option String)) :=
    members.map fun m ↦ ("ogr_fdw." ++ group ++ "." ++ m.1, m.2)
  within "server"
    [("datasource", some s.source.datasource), ("format", s.source.format),
      ("config_options", s.source.configOptions), ("open_options", s.source.openOptions),
      ("updateable", some (flagText s.source.updateable)),
      ("character_encoding", some s.source.encoding.name)] ++
  within "table"
    [("layer", some s.table.layer), ("updateable", s.table.updateable.map flagText),
      ("fid_column", s.table.fidColumn), ("geometry_column", s.table.geometryColumn)] ++
  within "planner"
    [("default_row_estimate", some (integerText s.planner.defaultRowEstimate)),
      ("startup_cost", some s.planner.startupCost.text),
      ("use_fast_feature_count", some (flagText s.planner.useFastFeatureCount))]

end Settings

end ForeignLayer
