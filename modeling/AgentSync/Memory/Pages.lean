import AgentSync.Page

namespace AgentSync

/-- Values by table and key; a table that is not listed has none. -/
structure Held (β : Type) where
  tables : List (Table × Dict β)

namespace Held

variable {β : Type}

def empty : Held β := ⟨[]⟩

instance : Inhabited (Held β) := ⟨empty⟩

/-- What is held of one table. -/
def of (held : Held β) (table : Table) : Dict β :=
  ((held.tables.find? (·.1 == table)).map (·.2)).getD default

/-- Changes what is held of one table. -/
def modify (held : Held β) (table : Table) (f : Dict β → Dict β) : Held β :=
  ⟨(table, f (held.of table)) :: held.tables.filter (·.1 != table)⟩

/-- Holds values under keys, in place of what was held under them. -/
def insertAll (held : Held β) (table : Table) (entries : List (String × β)) : Held β :=
  held.modify table fun rows => entries.foldl (fun rows e => rows.insert e.1 e.2) rows

/-- Holds nothing under keys any more. -/
def eraseAll (held : Held β) (table : Table) (keys : List String) : Held β :=
  held.modify table fun rows => Dict.ofList (rows.entries.filter fun e => !keys.contains e.1)

end Held

/-- Rows under their keys; rows without a key are left out. -/
def Table.keyed (table : Table) (rows : List Row) : List (String × Row) :=
  rows.filterMap fun row => (table.key? row).map (·, row)

/-- The first rows after a key. -/
def pageAfter (rows : Dict Row) (start : String) (size : Int) : List (String × Row) :=
  (rows.entries.filter fun e => start < e.1).take size.toNat

/-- The time of change that a row shows; empty if it shows none. -/
def changeTime (row : Row) : String := ((row.get? "updated_at").bind Json.string?).getD ""

/-- The digest of a page: the keys and times of change of its rows, one after another. -/
def digestOf (page : List (String × Row)) : PageDigest where
  hash := String.join (page.map fun (key, row) => key ++ "@" ++ changeTime row ++ ";")
  next := (page.getLast?.map (·.1)).getD ""
  total := page.length

/-- The rows of the page that a request asks about. -/
def Held.page (held : Held Row) (request : PageRequest) : List (String × Row) :=
  match Table.ofName? request.table with
  | some table => pageAfter (held.of table) request.start request.size
  | none => []

end AgentSync
