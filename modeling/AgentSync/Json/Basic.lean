import AgentSync.Binary64.Text
import AgentSync.Dict

namespace AgentSync

/-- A number of a JSON value. An integer literal that fits 64 bits, signed or unsigned, stays an
integer; every other number is binary floating point. -/
inductive Number where
  | int (value : Int)
  | real (value : Binary64)
  deriving DecidableEq, Repr, Inhabited

/-- A JSON value. The entries of an object are in increasing key order wherever this library
builds one. -/
inductive Json where
  | null
  | bool (value : Bool)
  | num (value : Number)
  | str (value : String)
  | arr (items : List Json)
  | obj (entries : List (String × Json))
  deriving BEq, Repr, Inhabited

/-- A row of a synced table: values by column name. -/
abbrev Row := Dict Json

namespace Json

def ofInt (value : Int) : Json := .num (.int value)

def ofNat (value : Nat) : Json := ofInt value

/-- An object holding the entries in key order. -/
def object (entries : List (String × Json)) : Json := .obj (Dict.ofList entries).entries

def ofRow (row : Row) : Json := .obj row.entries

/-- The object's entries as a row; `none` for any other value. -/
def toRow? : Json → Option Row
  | .obj entries => some (Dict.ofList entries)
  | _ => none

def ofStrings (items : List String) : Json := .arr (items.map .str)

/-- Text or null. -/
def ofOption (value : Option String) : Json := (value.map .str).getD .null

/-- An object whose values are all text. -/
def ofTexts (texts : Dict String) : Json := .obj (texts.map .str).entries

def string? : Json → Option String
  | .str s => some s
  | _ => none

def int? : Json → Option Int
  | .num (.int n) => some n
  | _ => none

def items? : Json → Option (List Json)
  | .arr items => some items
  | _ => none

/-- The value at `key` of an object. -/
def field? (key : String) : Json → Option Json
  | .obj entries => (entries.find? (·.1 == key)).map (·.2)
  | _ => none

end Json

end AgentSync
