import AgentSync.Json.Reader

namespace AgentSync

/-- A partial reading of a text's content, inside some room. -/
abbrev Decoder (α : Type) := Room → Source → Option α

namespace Decoder

variable {α : Type}

def json : Decoder Json := fun room source => source.toJson? room

def text : Decoder String := fun _ source =>
  match source with
  | .str value => value
  | _ => none

/-- An integer between two bounds. A number with a fraction or an exponent is not an integer. -/
def int (low high : Int) : Decoder Int := fun _ source =>
  match source with
  | .num (some (.int n)) => if low ≤ n ∧ n ≤ high then some n else none
  | _ => none

def int32 : Decoder Int := int (-0x80000000) 0x7FFFFFFF

def int64 : Decoder Int := int (-0x8000000000000000) 0x7FFFFFFFFFFFFFFF

def list (item : Decoder α) : Decoder (List α) := fun room source =>
  match source with
  | .arr items => do
    let inner ← room.enter?
    items.mapM (item inner)
  | _ => none

/-- The value, or nothing for null. -/
def nullable (value : Decoder α) : Decoder (Option α) := fun room source =>
  match source with
  | .null => some none
  | source => (value room source).map some

/-- An object read entry by entry; the last entry of a key counts. -/
def dict (value : Decoder α) : Decoder (Dict α) := fun room source =>
  match source with
  | .obj entries => do
    let inner ← room.enter?
    let pairs ← entries.mapM fun (key, source) => do return ((← key), (← value inner source))
    return Dict.ofList pairs
  | _ => none

def texts : Decoder (Dict String) := dict text

def row : Decoder Row := dict json

/-- One of several names, written as text or as an object with that name and null. -/
def name (ofName? : String → Option α) : Decoder α := fun room source =>
  match source with
  | .str value => value.bind ofName?
  | .obj [(key, .null)] => do
    let _ ← room.enter?
    ofName? (← key)
  | _ => none

/-- What a record says about one of its fields: a value, nothing because an object leaves the field
out, or nothing because an array ends before it. A record is an object, whose unknown entries are
skipped, or an array of its fields in order. -/
inductive Slot where
  | given (source : Source)
  | omitted
  | cut

/-- The entry of `field` in an object. -/
def entry? (field : String) (entries : List (Option String × Source)) : List Source :=
  (entries.filter (·.1 == some field)).map (·.2)

/-- The fields of an object, in the order of `names`. Every key must be text and no field may occur
twice. -/
def objectSlots (names : List String) (entries : List (Option String × Source)) :
    Option (List Slot) :=
  if entries.all (·.1.isSome) then
    names.mapM fun field =>
      match entry? field entries with
      | [] => some .omitted
      | [source] => some (.given source)
      | _ => none
  else none

/-- The fields of an array, in the order of `names`. There may be fewer items, not more. -/
def arraySlots (names : List String) (items : List Source) : Option (List Slot) :=
  if items.length ≤ names.length then
    some (items.map .given ++ List.replicate (names.length - items.length) .cut)
  else none

/-- The room inside a record and its fields, in the order of `names`. -/
def record (names : List String) : Decoder (Room × List Slot) := fun room source => do
  let inner ← room.enter?
  match source with
  | .obj entries => return (inner, ← objectSlots names entries)
  | .arr items => return (inner, ← arraySlots names items)
  | _ => none

/-- A field that must be there. -/
def Slot.required (room : Room) (value : Decoder α) : Slot → Option α
  | .given source => value room source
  | _ => none

/-- A field that an object may leave out. -/
def Slot.optional (room : Room) (value : Decoder α) : Slot → Option (Option α)
  | .given source => nullable value room source
  | .omitted => some none
  | .cut => none

/-- A field with a value to use when it is not there. -/
def Slot.orElse (room : Room) (value : Decoder α) (fallback : α) : Slot → Option α
  | .given source => value room source
  | _ => some fallback

/-- Reads a JSON text. -/
def ofText? (decoder : Decoder α) (text : String) : Option α := do
  decoder Room.ofText (← Source.ofText? text)

/-- Reads a JSON value, however deep it is. -/
def ofJson? (decoder : Decoder α) (value : Json) : Option α := decoder none value.toSource

end Decoder


end AgentSync
