import ForeignLayer.Value.Text

/-!
# Descriptions of scalars

What messages show of a scalar: the name of its type and its value. Texts are shown as they are,
bytes in decimal, dates in calendar form, and a null as the word for it. A list is shown by its
text, which gives way to a report where an element has no text.
-/

namespace ForeignLayer

open Number Calendar

namespace Scalar

/-- The word for a null. -/
def nullWord : String := "NULL"

/-- Bytes in decimal, with commas between them. -/
def bytesText (bs : List UInt8) : String :=
  String.intercalate "," (bs.map fun b ↦ toString b.toNat)

/-- The text of a day in the calendar, nothing for a day beyond it. -/
def dayText (n : Int) : String := ((Date.ofDays? n).map Date.text).getD ""

/-- A name with a description in brackets. -/
def named (name inside : String) : String := name ++ "(" ++ inside ++ ")"

/-- A text in double quotes, as it is. -/
def inQuotes (text : String) : String := "\"" ++ text ++ "\""

/-- The number of a word, the word for null without one. -/
def numberText {n : Nat} (v : Option (BitVec n)) : String :=
  (v.map fun w ↦ integerText w.toInt).getD nullWord

/-- The description of a scalar. -/
def describe : Scalar → String
  | ⟨.null, _⟩ => nullWord
  | ⟨.boolean, v⟩ => named "Boolean" ((v.map toString).getD nullWord)
  | ⟨.integer signed width, v⟩ =>
    named (DataType.integer signed width).name
      ((v.map fun w ↦ integerText (Width.toInt signed w)).getD nullWord)
  | ⟨.float32, v⟩ => named "Float32" ((v.map Floating.text).getD nullWord)
  | ⟨.float64, v⟩ => named "Float64" ((v.map Floating.text).getD nullWord)
  | ⟨.decimal precision scale, v⟩ =>
    named "Decimal128" ((v.map fun w ↦ named "Some" (integerText w.toInt)).getD "None" ++ "," ++
      toString precision ++ "," ++ integerText scale)
  | ⟨.text storage, v⟩ =>
    named (DataType.text storage).name ((v.map inQuotes).getD nullWord)
  | ⟨.binary storage, v⟩ =>
    named (DataType.binary storage).name ((v.map (inQuotes ∘ bytesText)).getD nullWord)
  | ⟨.fixedSizeBinary length, v⟩ =>
    named "FixedSizeBinary"
      (integerText length ++ ", " ++ (v.map (inQuotes ∘ bytesText)).getD nullWord)
  | ⟨.date32, v⟩ => named "Date32" (inQuotes ((v.map fun w ↦ dayText w.toInt).getD nullWord))
  | ⟨.date64, v⟩ =>
    named "Date64"
      (inQuotes ((v.map fun w ↦ dayText (w.toInt.tdiv Convert.millisPerDay)).getD nullWord))
  | ⟨.time32 unit, v⟩ => named ("Time32" ++ unit.name) (inQuotes (numberText v))
  | ⟨.time64 unit, v⟩ => named ("Time64" ++ unit.name) (inQuotes (numberText v))
  | ⟨.duration unit, v⟩ => named ("Duration" ++ unit.name) (inQuotes (numberText v))
  | ⟨.timestamp unit zone, v⟩ =>
    named ("Timestamp" ++ unit.name) (numberText v ++ ", " ++ Text.quoteOption zone)
  | ⟨.list storage element _, v⟩ =>
    let inside := (Convert.write? .letters element).elim "" fun write ↦
      (Convert.writeOptional (Convert.writeList write) v).shown
    match storage with
    | .regular => named "List" inside
    | .large => named "LargeList" inside
    | .fixedSize _ => named "FixedSizeList" inside

end Scalar

end ForeignLayer
