import AgentSync.Bundle
import AgentSync.Json.Decode

namespace AgentSync.Bundle

/-- The entries of the wire form. Labels and tables appear only when they are not empty. -/
def fields (bundle : Bundle) : List (String × Json) :=
  [("agent_name", .str bundle.agentName)] ++
    (if bundle.labels.isEmpty then [] else [("labels", Json.ofTexts bundle.labels)]) ++
    bundle.tables.map fun (table, rows) => (table.name, .arr (rows.map Json.ofRow))

/-- The wire form. -/
def toJson (bundle : Bundle) : Json := Json.object bundle.fields

/-- The compact text of the wire form. -/
def text (bundle : Bundle) : String := bundle.toJson.text

/-- The fields of the wire form, in the order in which an array gives them. -/
def fieldNames : List String := ["agent_name", "labels"] ++ Table.all.map Table.name

/-- The rows of each table, given in the order of all tables. -/
def rowsOf (columns : List (List Row)) (table : Table) : List Row :=
  (columns[table.position]?).getD []

/-- Reads the wire form; every field may be left out. -/
def decoder : Decoder Bundle := fun room source => do
  let (inner, slots) ← Decoder.record fieldNames room source
  match slots with
  | nameSlot :: labelSlot :: rowSlots =>
    let agentName ← nameSlot.orElse inner Decoder.text ""
    let labels ← labelSlot.orElse inner Decoder.texts default
    let columns ← rowSlots.mapM (·.orElse inner (Decoder.list Decoder.row) [])
    return { agentName, labels, rows := rowsOf columns }
  | _ => none

/-- Reads a bundle from the text of its wire form. -/
def ofText? (text : String) : Option Bundle := decoder.ofText? text

/-- Reads a bundle from its wire form. -/
def ofJson? (value : Json) : Option Bundle := decoder.ofJson? value

end AgentSync.Bundle
