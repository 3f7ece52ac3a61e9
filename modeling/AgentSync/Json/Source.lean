import AgentSync.Json.Basic

namespace AgentSync

/-- The content of a JSON text before it is read as a value: entries in the order written, repeated
keys included. A number is absent when it is too large, a text when its escapes do not form
characters; a reader that skips a part never asks whether that part denotes a value. -/
inductive Source where
  | null
  | bool (value : Bool)
  | num (value : Option Number)
  | str (value : Option String)
  | arr (items : List Source)
  | obj (entries : List (Option String × Source))
  deriving Inhabited

/-- How many further arrays and objects may be opened; `none` means any number. -/
abbrev Room := Option Nat

/-- A JSON text opens at most 127 arrays and objects inside one another. -/
def Room.ofText : Room := some 127

/-- The room left inside one more array or object, if it may be opened. -/
def Room.enter? : Room → Option Room
  | none => some none
  | some 0 => none
  | some (n + 1) => some (some n)

namespace Source

/-- An object whose first key is this one stands for the JSON text beside it. -/
def embeddingKey : String := "$serde_json::private::RawValue"

/-- The text that an object embeds, if its first key says that it does. It must be the object's
only entry, and text. -/
def embedded? : List (Option String × Source) → Option (Option String)
  | (some key, content) :: rest =>
    if key = embeddingKey then
      match content, rest with
      | .str text, [] => some text
      | _, _ => some none
    else none
  | _ => none

mutual

/-- The value a text denotes, if `read` reads the texts embedded in it. Of two entries with one key
the later one counts. -/
def toJsonWith? (read : String → Option Json) (room : Room) : Source → Option Json
  | .null => some .null
  | .bool b => some (.bool b)
  | .num value => value.map .num
  | .str value => value.map .str
  | .arr items => do
    let inner ← room.enter?
    return .arr (← itemsToJson? read inner items)
  | .obj entries => do
    let inner ← room.enter?
    match embedded? entries with
    | some text => read (← text)
    | none => return Json.object (← entriesToJson? read inner entries)

def itemsToJson? (read : String → Option Json) (room : Room) : List Source → Option (List Json)
  | [] => some []
  | item :: rest => do
    let value ← toJsonWith? read room item
    return value :: (← itemsToJson? read room rest)

def entriesToJson? (read : String → Option Json) (room : Room) :
    List (Option String × Source) → Option (List (String × Json))
  | [] => some []
  | (key, item) :: rest => do
    let key ← key
    let value ← toJsonWith? read room item
    return (key, value) :: (← entriesToJson? read room rest)

end

end Source

namespace Json

mutual

/-- A value seen as the content of a text. -/
def toSource : Json → Source
  | .null => .null
  | .bool b => .bool b
  | .num n => .num (some n)
  | .str s => .str (some s)
  | .arr items => .arr (itemsToSource items)
  | .obj entries => .obj (entriesToSource entries)

def itemsToSource : List Json → List Source
  | [] => []
  | item :: rest => toSource item :: itemsToSource rest

def entriesToSource : List (String × Json) → List (Option String × Source)
  | [] => []
  | (key, value) :: rest => (some key, toSource value) :: entriesToSource rest

end

end Json

end AgentSync
