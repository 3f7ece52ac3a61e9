import AgentSync.Http.Percent

namespace AgentSync.Form

/-- What is kept as it is. -/
def keeps (c : Char) : Bool := c.isAlphanum || c == '*' || c == '-' || c == '.' || c == '_'

/-- A name or a value as it is written; blanks become plus signs. -/
def encodePart (cs : List Char) : List Char :=
  cs.flatMap fun c => if c = ' ' then ['+'] else if keeps c then [c] else Percent.escapeChar c

def encodeField (field : String × String) : List Char :=
  encodePart field.1.toList ++ '=' :: encodePart field.2.toList

/-- Fields as they are written: names and values between ampersands, each as `name=value`. -/
def encode (fields : List (String × String)) : String :=
  "&".intercalate (fields.map fun field => String.ofList (encodeField field))

/-- The name or the value that was written. -/
def decodePart (cs : List Char) : List Char :=
  Utf8.decodeLossy (Percent.decodeBytes (cs.map fun c => if c = '+' then ' ' else c))

/-- The pieces between ampersands. -/
def pieces : List Char → List (List Char)
  | [] => [[]]
  | '&' :: rest => [] :: pieces rest
  | c :: rest =>
    match pieces rest with
    | [] => [[c]]
    | head :: tail => (c :: head) :: tail

def decodeField (piece : List Char) : String × String :=
  let name := piece.takeWhile (· ≠ '=')
  let value := (piece.dropWhile (· ≠ '=')).drop 1
  (String.ofList (decodePart name), String.ofList (decodePart value))

/-- The fields of a query; empty pieces are none. -/
def decode (query : String) : List (String × String) :=
  ((pieces query.toList).filter (!·.isEmpty)).map decodeField

end AgentSync.Form
