import ForeignLayer.Layer.Store
import ForeignLayer.Settings

/-!
# Connections

A connection holds one source and one layer of it for one operation. It is opened from settings: a
source that may be written to is first opened for update, and if that fails it is opened again for
reading only. Each attempt is a request to the registry of sources.

Whether the layer may be written to is settled as late as possible. Without a setting it is asked
once, by its capabilities. With a setting in favour writes are attempted until the first one fails.

The contents of the layer are no part of the connection. Several connections share them, one after
the other, so they are handed in and out beside it.
-/

namespace ForeignLayer

/-! ## Sources -/

/-- A source with its layers. -/
structure Source where
  layers : List Layer := []
  capabilities : List String := []

namespace Source

/-- Adds a layer; a later layer hides an earlier one of its name. -/
def add (s : Source) (l : Layer) : Source := { s with layers := l :: s.layers }

/-- The layer with a name. -/
def layer? (s : Source) (name : String) : Option Layer :=
  s.layers.find? fun l ↦ l.definition.name == name

/-- Whether the source has a capability. -/
def hasCapability (s : Source) (capability : String) : Bool := s.capabilities.contains capability

end Source

namespace Connection

/-- Why a connection cannot be opened or used. -/
inductive Fault where
  /-- The settings name no source. -/
  | noSource
  /-- The settings name no layer. -/
  | noLayer
  /-- The options for drivers or for the source cannot be read. -/
  | settings (reason : Settings.Fault)
  /-- There is no source of the name. -/
  | unknownSource (name : String)
  /-- The source can only be read. -/
  | readOnlySource (name : String)
  /-- The source has no layer of the name. -/
  | unknownLayer (name : String)
  /-- The source was closed. -/
  | sourceClosed (name : String)
  /-- The layer was closed. -/
  | layerClosed (name : String)
deriving DecidableEq, Repr

/-- The wording of a fault. -/
def Fault.message : Fault → String
  | noSource => "The datasource option is required"
  | noLayer => "The layer option is required"
  | settings reason => reason.message
  | unknownSource name => "Unable to open datasource '" ++ name ++ "'"
  | readOnlySource name => "Datasource '" ++ name ++ "' can't be opened for update"
  | unknownLayer name => "Layer '" ++ name ++ "' not found"
  | sourceClosed name => "Datasource '" ++ name ++ "' is closed"
  | layerClosed name => "Layer '" ++ name ++ "' is closed"

/-! ## Opening sources -/

/-- A request to open a source. -/
structure Request where
  source : String
  driver : Option String := none
  openOptions : Settings.Pairs := []
  configOptions : Settings.Pairs := []
  /-- Whether the source is to be opened for update. -/
  update : Bool
deriving DecidableEq, Repr

/-- The sources that can be opened. -/
structure Registry where
  sources : List (String × Source) := []
  /-- The names of the sources that can only be read. -/
  readOnly : List String := []

namespace Registry

/-- Registers a source; a later source hides an earlier one of its name, but a name that can only
be read stays so. -/
def register (r : Registry) (name : String) (source : Source) (readOnly : Bool) : Registry :=
  ⟨(name, source) :: r.sources, if readOnly then name :: r.readOnly else r.readOnly⟩

/-- Answers a request. -/
def openSource (r : Registry) (q : Request) : Except Fault Source :=
  match r.sources.lookup q.source with
  | none => .error (.unknownSource q.source)
  | some source =>
    if q.update && r.readOnly.contains q.source then .error (.readOnlySource q.source)
    else .ok source

end Registry

/-! ## Connections -/

/-- Whether a source or a layer may be written to. -/
inductive Updateable where
  | no
  | yes
  /-- Not settled yet. -/
  | unset
  /-- Until a write fails. -/
  | attempt
deriving DecidableEq, Repr

end Connection

open Connection in
/-- A source and one layer of it, opened for one operation. -/
structure Connection where
  /-- The settings that it was opened with. -/
  settings : Settings.Source
  /-- The name of the layer. -/
  layerName : String
  sourceUpdateable : Updateable
  layerUpdateable : Updateable
  /-- The encoding of the source. -/
  encoding : Encoding
  /-- The source as it was opened; none once the connection is closed. -/
  source : Option Source

namespace Connection

/-- Options as pairs, none without a text. -/
def readOptions (text : Option String) : Except Fault Settings.Pairs :=
  (Settings.Pairs.read (text.getD "")).mapError .settings

/-- The encoding of a source: the one that its open options ask for, else the one that is set. -/
def chooseEncoding (settings : Settings.Source) : Except Fault Encoding :=
  match settings.openOptions with
  | none => .ok settings.encoding
  | some text =>
    match Encoding.ofOpenOptions? text with
    | .ok found => .ok (found.getD settings.encoding)
    | .error reason => .error (.settings reason)

/-- What comes of opening a connection: the requests that were made, and the connection with the
contents of its layer. -/
structure Opening where
  requests : List Request
  result : Except Fault (Connection × Layer)

/-- What settings ask for: the request that is made first, and the encoding. -/
def request (source : Settings.Source) (table : Settings.Table) :
    Except Fault (Request × Encoding) := do
  if source.datasource.isEmpty then throw .noSource
  if table.layer.isEmpty then throw .noLayer
  let encoding ← chooseEncoding source
  let openOptions ← readOptions source.openOptions
  let configOptions ← readOptions source.configOptions
  return (⟨source.datasource, source.format, openOptions, configOptions, source.updateable⟩,
    encoding)

/-- Makes a request, and a second one for reading only if the source cannot be opened for update.
Gives the requests that were made and the source, with whether it may be written to. -/
def openSource (registry : Registry) (q : Request) :
    List Request × Except Fault (Source × Updateable) :=
  if q.update then
    match registry.openSource q with
    | .ok source => ([q], .ok (source, .yes))
    | .error _ =>
      let q' := { q with update := false }
      ([q, q'], (registry.openSource q').map fun source ↦ (source, .no))
  else ([q], (registry.openSource q).map fun source ↦ (source, .no))

/-- Whether the setting of a table lets its layer be written to. -/
def Updateable.ofSetting : Option Bool → Updateable
  | some false => no
  | some true => attempt
  | none => unset

/-- Opens the source and the layer that settings describe. -/
def opening (registry : Registry) (source : Settings.Source) (table : Settings.Table) : Opening :=
  match request source table with
  | .error fault => ⟨[], .error fault⟩
  | .ok (q, encoding) =>
    let (requests, opened) := openSource registry q
    ⟨requests, do
      let (opened, updateable) ← opened
      match opened.layer? table.layer with
      | none => throw (.unknownLayer table.layer)
      | some layer =>
        return (⟨source, table.layer, updateable, .ofSetting table.updateable, encoding,
          some opened⟩, layer)⟩

/-- Whether the connection is open. -/
def isOpen (c : Connection) : Bool := c.source.isSome

/-- The source of an open connection. -/
def getSource (c : Connection) : Except Fault Source :=
  match c.source with
  | some source => .ok source
  | none => .error (.sourceClosed c.settings.datasource)

/-- Checks that the layer is open. -/
def checkLayer (c : Connection) : Except Fault Unit :=
  if c.isOpen then .ok () else .error (.layerClosed c.layerName)

/-- Whether a layer has any capability to be written to. -/
def isWritable (l : Layer) : Bool :=
  [Layer.randomWrite, Layer.sequentialWrite, Layer.deleteFeature].any l.hasCapability

/-- Whether writes should be attempted. What is not settled yet is settled by the capabilities of
the layer; the source is asked first, and settles nothing. -/
def probe (c : Connection) (l : Layer) : Bool × Connection :=
  if c.sourceUpdateable = .no then (false, c)
  else match c.layerUpdateable with
    | .yes | .attempt => (true, c)
    | .no => (false, c)
    | .unset =>
      if c.isOpen && isWritable l then (true, { c with layerUpdateable := .yes })
      else (false, { c with layerUpdateable := .no })

/-- Takes note of a write that the layer refused: there are no more attempts. -/
def recordWriteFailure (c : Connection) : Connection :=
  if c.layerUpdateable = .attempt then { c with layerUpdateable := .no } else c

/-- Closes the connection. -/
def close (c : Connection) : Connection := { c with source := none }

end Connection

end ForeignLayer
