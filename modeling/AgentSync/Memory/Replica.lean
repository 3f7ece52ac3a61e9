import AgentSync.Memory.Sides
import AgentSync.Sync.Reconciler

namespace AgentSync

/-- Puts values at their keys, one after another. -/
def Dict.insertAll {β : Type} (d : Dict β) (entries : List (String × β)) : Dict β :=
  entries.foldl (fun d e => d.insert e.1 e.2) d

/-- Takes keys out. -/
def Dict.eraseAll {β : Type} (d : Dict β) (keys : List String) : Dict β :=
  ⟨d.entries.filter fun e => !keys.contains e.1, d.sorted.filter _⟩

/-- The rows of a table under their keys, none of which is empty. -/
structure FiledRows (table : Table) where
  rows : Dict Row
  filed : ∀ entry ∈ rows.entries, table.key? entry.2 = some entry.1 ∧ entry.1 ≠ ""

/-- The keys of rows with their times of change. -/
def versions (entries : List (String × Row)) : List (String × String) :=
  entries.map fun entry => (entry.1, changeTime entry.2)

/-- The digest of a page. The two sides compare pages by a hash of the keys and times of change of
their rows, whichever it is. -/
def digestBy (hash : List (String × String) → String) (page : List (String × Row)) :
    PageDigest where
  hash := hash (versions page)
  next := (page.getLast?.map (·.1)).getD ""
  total := page.length

/-- An agent's rows beside a hub that takes everything it is sent. -/
structure Replica where
  localRows : (table : Table) → FiledRows table
  /-- The keys of the rows that are flagged for a push. -/
  unpushed : Table → List String
  /-- The key after which a sweep over the rows changed within a time starts. -/
  cursor : Table → Duration → String
  hubRows : Table → Dict Row
  /-- The calls to the hub so far. -/
  calls : List SideCall

namespace Replica

/-- The page that a request asks about; there is none of what is not a table. -/
def page (rows : Table → Dict Row) (request : PageRequest) : List (String × Row) :=
  match Table.ofName? request.table with
  | some table => pageAfter (rows table) request.start request.size
  | none => []

/-- The rows of the agent. -/
def held (replica : Replica) (table : Table) : Dict Row := (replica.localRows table).rows

/-- Changes the keys that are flagged in one table. -/
def flag (replica : Replica) (table : Table) (f : List String → List String) : Replica :=
  { replica with unpushed := fun other =>
      if other = table then f (replica.unpushed table) else replica.unpushed other }

/-- Writes a call to the hub down. -/
def called (replica : Replica) (call : SideCall) : Replica :=
  { replica with calls := replica.calls ++ [call] }

/-- The hub takes the rows of a bundle, each under its key. -/
def take (replica : Replica) (bundle : Bundle) : Replica :=
  { replica with hubRows := fun table =>
      (replica.hubRows table).insertAll (table.keyed (bundle.rows table)) }

/-- The hub drops the rows that a bundle names. -/
def drop (replica : Replica) (bundle : Bundle) : Replica :=
  { replica with hubRows := fun table => (replica.hubRows table).eraseAll (bundle.ids table) }

/-- Reads something off the two sides. -/
def look {ε α : Type} (f : Replica → α) : Action (World Replica) ε α :=
  World.inside (Action.ask f)

/-- Changes the two sides. -/
def change {ε : Type} (f : Replica → Replica) : Action (World Replica) ε Unit :=
  World.inside (Action.update f)

/-- The agent's side. Rows that it lacks are passed over where they are asked for by key. -/
def source (hash : List (String × String) → String) : LocalSource Replica where
  digest request := look fun replica => digestBy hash (page replica.held request)
  rowsInWindow request := look fun replica => (page replica.held request).map (·.2)
  rowsByKeys table keys := look fun replica => keys.filterMap (replica.held table).get?
  unpushedRows table limit := look fun replica =>
    let isUnpushed (entry : String × Row) : Bool := (replica.unpushed table).contains entry.1
    (((replica.held table).entries.filter isUnpushed).take limit.toNat).map (·.2)
  markPushed table keys := do
    change (flag · table fun flagged => flagged.filter fun key => !keys.contains key)
    return keys.length
  markUnpushed table keys := do
    change (flag · table (· ++ keys))
    return keys.length
  syncAfterCursor table window := look fun replica => replica.cursor table window

/-- The hub's side, as the named agent sees it. -/
def hub (hash : List (String × String) → String) (agentName : String) : HubApi Replica where
  agentName
  push _ bundle := change fun replica => (replica.take bundle).called (.push bundle)
  delete _ bundle := change fun replica => (replica.drop bundle).called (.delete bundle)
  status _ request := do
    change (called · (.status request))
    look fun replica => digestBy hash (page replica.hubRows request)
  pullIds _ request := do
    change (called · (.pullIds request))
    look fun replica => (page replica.hubRows request).map (·.1)

/-- Reconciles the two sides in pages of some size, at least one row. -/
def reconciler (hash : List (String × String) → String) (agentName : String) (size : Int) :
    Reconciler Replica :=
  (Reconciler.new (source hash) (hub hash agentName)).withPageSize size

end Replica

end AgentSync
