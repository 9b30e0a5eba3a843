import ForeignLayer.Box
import ForeignLayer.Box.Json
import ForeignLayer.Bytes.Hex
import ForeignLayer.Bytes.Order
import ForeignLayer.Bytes.Utf8
import ForeignLayer.Calendar.Clock
import ForeignLayer.Calendar.Date
import ForeignLayer.Calendar.Instant
import ForeignLayer.Calendar.Zone
import ForeignLayer.Calendar.Zone.Africa
import ForeignLayer.Calendar.Zone.Asia
import ForeignLayer.Calendar.Zone.Europe
import ForeignLayer.Calendar.Zone.History
import ForeignLayer.Calendar.Zone.Names
import ForeignLayer.Calendar.Zone.NorthAmerica
import ForeignLayer.Calendar.Zone.Pacific
import ForeignLayer.Calendar.Zone.Rules.Africa
import ForeignLayer.Calendar.Zone.Rules.Asia
import ForeignLayer.Calendar.Zone.Rules.Europe
import ForeignLayer.Calendar.Zone.Rules.NorthAmerica
import ForeignLayer.Calendar.Zone.Rules.Pacific
import ForeignLayer.Calendar.Zone.Rules.SouthAmerica
import ForeignLayer.Calendar.Zone.SouthAmerica
import ForeignLayer.Catalog.Fault
import ForeignLayer.Catalog.Table
import ForeignLayer.Category
import ForeignLayer.Column.Conversion
import ForeignLayer.Column.Fault
import ForeignLayer.Column.Geometry
import ForeignLayer.Column.Type
import ForeignLayer.Connection
import ForeignLayer.Filter.Clause
import ForeignLayer.Filter.Condition
import ForeignLayer.Filter.Fault
import ForeignLayer.Filter.Reader
import ForeignLayer.Filter.Token
import ForeignLayer.Geometry.Fault
import ForeignLayer.Geometry.Kind
import ForeignLayer.Geometry.Shape
import ForeignLayer.Geometry.Srid
import ForeignLayer.Geometry.Value
import ForeignLayer.Geometry.Wkb.Coordinates
import ForeignLayer.Geometry.Wkb.Flavors
import ForeignLayer.Geometry.Wkb.Header
import ForeignLayer.Geometry.Wkb.Little
import ForeignLayer.Geometry.Wkb.Recognition
import ForeignLayer.Geometry.Wkb.Spelling
import ForeignLayer.Geometry.Wkb.Tree
import ForeignLayer.Geometry.Wkt.Reader
import ForeignLayer.Geometry.Wkt.Token
import ForeignLayer.Geometry.Wkt.Writer
import ForeignLayer.Json.Tree
import ForeignLayer.Json.Value
import ForeignLayer.Layer.Definition
import ForeignLayer.Layer.Fault
import ForeignLayer.Layer.Feature
import ForeignLayer.Layer.FieldType
import ForeignLayer.Layer.Store
import ForeignLayer.Number.Floating
import ForeignLayer.Number.Layout
import ForeignLayer.Number.Reading
import ForeignLayer.Number.Shortest
import ForeignLayer.Number.Text
import ForeignLayer.Operation
import ForeignLayer.Operation.Fault
import ForeignLayer.Operation.Row
import ForeignLayer.Predicate.Clauses
import ForeignLayer.Predicate.Expr
import ForeignLayer.Predicate.Fold
import ForeignLayer.Predicate.Literal
import ForeignLayer.Predicate.Overlap
import ForeignLayer.Predicate.Plan
import ForeignLayer.Proofs.BinaryValues
import ForeignLayer.Proofs.BoundTables
import ForeignLayer.Proofs.BoxTexts
import ForeignLayer.Proofs.Casts
import ForeignLayer.Proofs.CivilDays
import ForeignLayer.Proofs.ClauseForms
import ForeignLayer.Proofs.ColumnOrder
import ForeignLayer.Proofs.ColumnValues
import ForeignLayer.Proofs.ConstantGeometries
import ForeignLayer.Proofs.CountedRows
import ForeignLayer.Proofs.DecimalDigits
import ForeignLayer.Proofs.DecimalReading
import ForeignLayer.Proofs.DeclaredTags
import ForeignLayer.Proofs.DroppedColumns
import ForeignLayer.Proofs.Events
import ForeignLayer.Proofs.ExtendedLine
import ForeignLayer.Proofs.FeatureIds
import ForeignLayer.Proofs.FilterCharacters
import ForeignLayer.Proofs.FilterLayout
import ForeignLayer.Proofs.FilterReading
import ForeignLayer.Proofs.FilterRoundTrip
import ForeignLayer.Proofs.FilterTokens
import ForeignLayer.Proofs.FilterTruth
import ForeignLayer.Proofs.FoldedEnvelopes
import ForeignLayer.Proofs.GatedWrites
import ForeignLayer.Proofs.GeometryExchange
import ForeignLayer.Proofs.HeldShapes
import ForeignLayer.Proofs.HexText
import ForeignLayer.Proofs.InsertedRows
import ForeignLayer.Proofs.JoinedBoxes
import ForeignLayer.Proofs.JsonMembers
import ForeignLayer.Proofs.LayerSteps
import ForeignLayer.Proofs.LeastBoxes
import ForeignLayer.Proofs.LeftFilters
import ForeignLayer.Proofs.LiteralValue
import ForeignLayer.Proofs.NumberOrder
import ForeignLayer.Proofs.Overlaps
import ForeignLayer.Proofs.PlanMarks
import ForeignLayer.Proofs.PlannedFeatures
import ForeignLayer.Proofs.PredicateTruth
import ForeignLayer.Proofs.PrintedConditions
import ForeignLayer.Proofs.Pushdown
import ForeignLayer.Proofs.ReportedBindings
import ForeignLayer.Proofs.ReportedParameters
import ForeignLayer.Proofs.RestartedScans
import ForeignLayer.Proofs.Results
import ForeignLayer.Proofs.Rewriting
import ForeignLayer.Proofs.Rounding
import ForeignLayer.Proofs.RowValues
import ForeignLayer.Proofs.ScannedRows
import ForeignLayer.Proofs.ScansAmongWrites
import ForeignLayer.Proofs.SeparateClauses
import ForeignLayer.Proofs.SparseClauses
import ForeignLayer.Proofs.SpelledLiterals
import ForeignLayer.Proofs.Steps
import ForeignLayer.Proofs.StrictGeometries
import ForeignLayer.Proofs.TableColumns
import ForeignLayer.Proofs.TimeTexts
import ForeignLayer.Proofs.Utf8Text
import ForeignLayer.Proofs.VolatileCalls
import ForeignLayer.Proofs.WiderNumbers
import ForeignLayer.Proofs.WkbFraming
import ForeignLayer.Proofs.WkbGrammar
import ForeignLayer.Proofs.WkbHeaders
import ForeignLayer.Proofs.WrittenFeatures
import ForeignLayer.Proofs.WrittenPairs
import ForeignLayer.Schema.Field
import ForeignLayer.Settings
import ForeignLayer.Settings.Encoding
import ForeignLayer.Settings.Fault
import ForeignLayer.Settings.Pairs
import ForeignLayer.Text.Blank
import ForeignLayer.Text.Letter
import ForeignLayer.Text.Printable
import ForeignLayer.Text.Quote
import ForeignLayer.Value.Cast
import ForeignLayer.Value.DataType
import ForeignLayer.Value.Describe
import ForeignLayer.Value.Number
import ForeignLayer.Value.Scalar
import ForeignLayer.Value.Text
import ForeignLayer.Value.Time
