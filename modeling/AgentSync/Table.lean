import AgentSync.Json.Writer

namespace AgentSync

/-- A synced table. -/
inductive Table where
  | canaries
  | configScrapers
  | checks
  | checkStatuses
  | components
  | configItems
  | configRelationships
  deriving DecidableEq, Repr, Inhabited

namespace Table

/-- Every table, a parent before its children. -/
def all : List Table :=
  [canaries, configScrapers, checks, checkStatuses, components, configItems, configRelationships]

theorem mem_all (table : Table) : table ∈ all := by cases table <;> decide

def name : Table → String
  | canaries => "canaries"
  | configScrapers => "config_scrapers"
  | checks => "checks"
  | checkStatuses => "check_statuses"
  | components => "components"
  | configItems => "config_items"
  | configRelationships => "config_relationships"

/-- The columns of the primary key, in their order inside a text key. -/
def primaryKey : Table → List String
  | checkStatuses => ["check_id", "time"]
  | configRelationships => ["config_id", "related_id", "relation"]
  | _ => ["id"]

/-- Whether a row names the agent that owns it. -/
def hasOwner : Table → Bool
  | checkStatuses | configRelationships => false
  | _ => true

/-- Whether pages of the table can be compared: rows have a single key column and a time of their
last change. -/
def isReconcilable (table : Table) : Bool := table.hasOwner

/-- The column that refers to another row of the same table. -/
def parentColumn : Table → Option String
  | components | configItems => some "parent_id"
  | _ => none

/-- The tables that can be compared, a parent before its children. -/
def reconcilable : List Table := all.filter isReconcilable

/-- The place of a table among all tables. -/
def position : Table → Nat
  | canaries => 0
  | configScrapers => 1
  | checks => 2
  | checkStatuses => 3
  | components => 4
  | configItems => 5
  | configRelationships => 6

theorem getElem?_position (table : Table) : all[table.position]? = some table := by
  cases table <;> rfl

def ofName? (name : String) : Option Table := all.find? (·.name == name)

theorem ofName?_name (table : Table) : ofName? table.name = some table := by
  cases table <;> decide

/-- The text of one key column: a text itself, any other value but null as compact JSON. -/
def keyPart? : Json → Option String
  | .null => none
  | .str text => some text
  | value => some value.text

/-- The parts of a row's key; `none` when a key column is missing or null. -/
def keyParts? (table : Table) (row : Row) : Option (List String) :=
  table.primaryKey.mapM fun column => (row.get? column).bind keyPart?

/-- The primary key of a row as text, its parts joined with `:`. -/
def key? (table : Table) (row : Row) : Option String :=
  (table.keyParts? row).map (":".intercalate ·)

/-- The parts between the first `n - 1` occurrences of a character and what follows them. -/
def splitFirst (separator : Char) : Nat → List Char → List (List Char)
  | 0, _ => []
  | 1, cs => [cs]
  | n + 2, cs =>
    let rest := cs.dropWhile (· ≠ separator)
    let head := cs.takeWhile (· ≠ separator)
    match rest with
    | [] => [head]
    | _ :: tail => head :: splitFirst separator (n + 1) tail

/-- A row with only its key columns, read back from a text key. No part may be empty, and the last
part holds every `:` that is left. -/
def keyRow? (table : Table) (key : String) : Option Row :=
  let parts := splitFirst ':' table.primaryKey.length key.toList
  if parts.length = table.primaryKey.length ∧ parts.all (!·.isEmpty) then
    some (Dict.ofList (table.primaryKey.zip (parts.map fun part => .str (String.ofList part))))
  else none

end Table

end AgentSync
