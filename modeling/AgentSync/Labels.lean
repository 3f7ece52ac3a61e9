import AgentSync.Dict
import AgentSync.Text.Blank
import AgentSync.Text.Split

namespace AgentSync.Labels

/-- One label; nothing for a piece without `=` or with a blank key. -/
def ofPiece? (piece : List Char) : Option (String × String) :=
  match piece.dropWhile (· ≠ '=') with
  | [] => none
  | _ :: value =>
    let key := Text.trim (piece.takeWhile (· ≠ '='))
    if key.isEmpty then none else some (String.ofList key, String.ofList (Text.trim value))

/-- The labels of a text, written as `key=value` pieces between commas. Pieces that are none are
passed over; of two with one key the later one counts. -/
def parse (text : String) : Dict String :=
  Dict.ofList ((Text.splitOn ',' text.toList).filterMap ofPiece?)

/-- The labels in the order of their keys, as `parse` reads them. -/
def render (labels : Dict String) : String :=
  ",".intercalate (labels.entries.map fun (key, value) => key ++ "=" ++ value)

end AgentSync.Labels
