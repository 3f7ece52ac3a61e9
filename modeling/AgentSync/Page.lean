import AgentSync.Json.Decode
import AgentSync.Table

namespace AgentSync

/-- Asks about the first rows of a table after a key. -/
structure PageRequest where
  /-- The name of the table, not yet known to be one. -/
  table : String
  /-- The key after which the page starts; empty for the start of the table. -/
  start : String
  size : Int
  deriving DecidableEq, Repr, Inhabited

namespace PageRequest

def ofTable (table : Table) (start : String) (size : Int) : PageRequest := ⟨table.name, start, size⟩

/-- The fields of the wire form, in the order in which an array gives them. -/
def fieldNames : List String := ["table", "from", "size"]

/-- The wire form. -/
def toJson (request : PageRequest) : Json :=
  Json.object [
    ("table", .str request.table),
    ("from", .str request.start),
    ("size", Json.ofInt request.size)]

/-- Reads the wire form. -/
def decoder : Decoder PageRequest := fun room source => do
  let (inner, slots) ← Decoder.record fieldNames room source
  match slots with
  | [table, start, size] =>
    return {
      table := ← table.required inner Decoder.text
      start := ← start.orElse inner Decoder.text ""
      size := ← size.required inner Decoder.int64 }
  | _ => none

end PageRequest

/-- What a side says about one of its pages. Pages with equal hashes hold the same keys with the
same times of change. -/
structure PageDigest where
  hash : String
  /-- The last key of the page. -/
  next : String
  /-- The number of rows of the page. -/
  total : Int
  deriving DecidableEq, Repr, Inhabited

namespace PageDigest

/-- The fields of the wire form, in the order in which an array gives them. -/
def fieldNames : List String := ["sha256sum", "last_id", "total"]

/-- The wire form. -/
def toJson (digest : PageDigest) : Json :=
  Json.object [
    ("sha256sum", .str digest.hash),
    ("last_id", .str digest.next),
    ("total", Json.ofInt digest.total)]

/-- Reads the wire form. -/
def decoder : Decoder PageDigest := fun room source => do
  let (inner, slots) ← Decoder.record fieldNames room source
  match slots with
  | [hash, next, total] =>
    return {
      hash := ← hash.required inner Decoder.text
      next := ← next.required inner Decoder.text
      total := ← total.required inner Decoder.int64 }
  | _ => none

end PageDigest

/-- The wire form of a conflict: the keys of the rows that refer to missing ones. -/
structure ConflictBody where
  ids : List String
  deriving DecidableEq, Repr, Inhabited

namespace ConflictBody

/-- The wire form. -/
def toJson (body : ConflictBody) : Json := Json.object [("ids", Json.ofStrings body.ids)]

/-- Reads the wire form; the keys may be left out. -/
def decoder : Decoder ConflictBody := fun room source => do
  let (inner, slots) ← Decoder.record ["ids"] room source
  match slots with
  | [ids] => return { ids := ← ids.orElse inner (Decoder.list Decoder.text) [] }
  | _ => none

end ConflictBody

/-- A table, written as its name. -/
def Table.decoder : Decoder Table := Decoder.name Table.ofName?

end AgentSync
