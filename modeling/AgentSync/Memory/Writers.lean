import AgentSync.Memory.Replica
import AgentSync.Store.Source
import AgentSync.Sync.Reconciler

namespace AgentSync

/-- Changes the values at some keys. -/
def Dict.adjust {β : Type} (d : Dict β) (keys : List String) (f : β → β) : Dict β :=
  ⟨d.entries.map fun e => (e.1, if keys.contains e.1 then f e.2 else e.2),
    List.pairwise_map.mpr d.sorted⟩

/-- A row that a producer writes under its key. -/
structure Write where
  table : Table
  key : String
  row : Row
  filed : table.key? row = some key

/-- A row beside the flag that tells whether the hub has it. -/
structure Stored where
  row : Row
  isPushed : Bool

/-- The rows of all tables, each under its key, in a database that producers write to while the rows
are pushed. Before each statement the writes that are due land. -/
structure Stock where
  rows : Table → Dict Stored
  filed : ∀ table, ∀ entry ∈ (rows table).entries, table.key? entry.2.row = some entry.1

namespace Stock

def get? (stock : Stock) (table : Table) (key : String) : Option Stored :=
  (stock.rows table).get? key

/-- A written row replaces the one under its key. The hub does not have it. -/
def put (stock : Stock) (write : Write) : Stock where
  rows table :=
    if table = write.table then (stock.rows table).insert write.key ⟨write.row, false⟩
    else stock.rows table
  filed table entry hmem := by
    split at hmem
    · next htable =>
      rcases Dict.mem_insertEntry hmem with rfl | hold
      · exact htable ▸ write.filed
      · exact stock.filed table entry hold
    · exact stock.filed table entry hmem

/-- Sets the flags of rows of a table. -/
def flag (stock : Stock) (table : Table) (keys : List String) (isPushed : Bool) : Stock where
  rows other :=
    if other = table then (stock.rows other).adjust keys fun stored => { stored with isPushed }
    else stock.rows other
  filed other entry hmem := by
    split at hmem
    · obtain ⟨old, hold, rfl⟩ := List.mem_map.mp hmem
      dsimp only
      split
      · exact stock.filed other old hold
      · exact stock.filed other old hold
    · exact stock.filed other entry hmem

/-- The number of rows of a table with one of some keys. -/
def countOf (stock : Stock) (table : Table) (keys : List String) : Nat :=
  (stock.rows table).entries.countP fun entry => keys.contains entry.1

/-- The keys that rows name in a column. -/
def parents (stock : Stock) (table : Table) (column : String) (keys : List String) :
    List String :=
  (stock.rows table).entries.filterMap fun entry =>
    if keys.contains entry.1 then (entry.2.row.get? column).bind Table.keyPart? else none

end Stock

/-- The rows that a database answers when asked for rows that the hub does not have: some of these,
in some order. -/
structure Picks where
  choose : Stock → Table → Uuid → Int → List (String × Stored)
  unpushed : ∀ stock table owner limit, ∀ entry ∈ choose stock table owner limit,
    entry ∈ (stock.rows table).entries ∧ entry.2.isPushed = false

/-- What the hub does with the rows of a push, and what the agent hears of it. -/
inductive PushVerdict where
  | saved
  /-- Rows that refer to missing ones are refused, the others are saved. -/
  | refused (keys : List String)
  /-- The agent hears of a failure. Some rows may have been saved all the same. -/
  | failed (error : HubError) (hother : ∀ keys, error ≠ .missingParents keys) (saved : List String)

namespace PushVerdict

def answer : PushVerdict → Except HubError Unit
  | saved => .ok ()
  | refused keys => .error (.missingParents keys)
  | failed error _ _ => .error error

/-- Whether the row with a key is saved. -/
def saves : PushVerdict → String → Bool
  | saved, _ => true
  | refused keys, key => !keys.contains key
  | failed _ _ kept, key => kept.contains key

end PushVerdict

/-- Something that happened to an agent's rows. -/
inductive Note where
  | wrote (write : Write)
  | read (table : Table) (rows : List Row)
  | flagged (table : Table) (keys : List String) (isPushed : Bool)

/-- An agent's rows while others write to them, and the rows of a hub. -/
structure Contended where
  stock : Stock
  hubRows : Table → Dict Row
  /-- The writes that land before each of the next statements. -/
  due : List (List Write)
  /-- What the hub does with the next pushes; later ones it saves. -/
  verdicts : List PushVerdict
  notes : List Note

namespace Contended

/-- The rows of both sides and what is to happen to them. Nothing did yet. -/
def start (stock : Stock) (hubRows : Table → Dict Row) (due : List (List Write))
    (verdicts : List PushVerdict) : Contended :=
  ⟨stock, hubRows, due, verdicts, []⟩

/-- The writes that are due land. -/
def land (state : Contended) : Contended :=
  { state with
    stock := (state.due.headD []).foldl Stock.put state.stock
    notes := state.notes ++ (state.due.headD []).map .wrote
    due := state.due.tail }

/-- A statement that sets flags. -/
def setFlags (state : Contended) (table : Table) (keys : List String) (isPushed : Bool) :
    Answer × Contended :=
  (⟨[], state.stock.countOf table keys⟩,
    { state with
      stock := state.stock.flag table keys isPushed
      notes := state.notes ++ [.flagged table keys isPushed] })

/-- A statement that asks for rows. -/
def readRows (state : Contended) (table : Table) (rows : List Row) : Answer × Contended :=
  (⟨rows.map Json.ofRow, rows.length⟩, { state with notes := state.notes ++ [.read table rows] })

/-- What a statement of a push answers and does; all others do nothing. -/
def respond (picks : Picks) (state : Contended) : Command → Answer × Contended
  | .unpushedRows table owner limit =>
    state.readRows table ((picks.choose state.stock table owner limit).map (·.2.row))
  | .markPushed table keys => state.setFlags table keys true
  | .markUnpushed table keys => state.setFlags table keys false
  | .markParentsUnpushed table column keys =>
    state.setFlags table (state.stock.parents table column keys) false
  | _ => (⟨[], 0⟩, state)

/-- The agent's database. -/
def db (picks : Picks) : Database Contended where
  send command := fun state =>
    let (answer, after) := state.land.respond picks command
    (.ok answer, after)

/-- The agent's rows as a sync needs them. -/
def source (picks : Picks) (owner : Uuid) : LocalSource Contended :=
  RowStore.source ⟨db picks, owner⟩

/-- The hub saves rows of a bundle. -/
def take (state : Contended) (bundle : Bundle) (verdict : PushVerdict) : Contended :=
  { state with
    hubRows := fun table => (state.hubRows table).insertAll
      ((table.keyed (bundle.rows table)).filter fun entry => verdict.saves entry.1)
    verdicts := state.verdicts.tail }

/-- A hub that takes pushes by its verdicts. Its other calls may be any. -/
def hub (others : HubApi Contended) : HubApi Contended :=
  { others with
    push := fun _ bundle => World.inside do
      let verdict ← Action.ask fun state => state.verdicts.headD .saved
      Action.update (·.take bundle verdict)
      Action.ofExcept verdict.answer }

/-- The reconciler over an agent's database and the hub. -/
def reconciler (picks : Picks) (owner : Uuid) (others : HubApi Contended) (size : Int) :
    Reconciler Contended :=
  ⟨source picks owner, hub others, size⟩

end Contended

end AgentSync
