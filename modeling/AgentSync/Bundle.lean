import AgentSync.Table
import AgentSync.Uuid

namespace AgentSync

/-- Rows of synced tables with the name and the labels of the agent that sends them. -/
structure Bundle where
  agentName : String
  labels : Dict String
  rows : Table → List Row

namespace Bundle

/-- A bundle without rows. -/
def new (agentName : String) : Bundle := ⟨agentName, default, fun _ => []⟩

instance : Inhabited Bundle := ⟨new ""⟩

instance : BEq Bundle :=
  ⟨fun a b => a.agentName == b.agentName && a.labels == b.labels &&
    Table.all.all fun table => a.rows table == b.rows table⟩

theorem ext {a b : Bundle} (hname : a.agentName = b.agentName) (hlabels : a.labels = b.labels)
    (hrows : ∀ table, a.rows table = b.rows table) : a = b := by
  cases a; cases b
  cases hname; cases hlabels; cases funext hrows
  rfl

def withLabels (bundle : Bundle) (labels : Dict String) : Bundle := { bundle with labels }

/-- Changes the rows of one table. -/
def modify (bundle : Bundle) (table : Table) (f : List Row → List Row) : Bundle :=
  { bundle with rows := fun other =>
      if other = table then f (bundle.rows table) else bundle.rows other }

def addRows (bundle : Bundle) (table : Table) (rows : List Row) : Bundle :=
  bundle.modify table (· ++ rows)

/-- Takes the rows of one table out. -/
def clear (bundle : Bundle) (table : Table) : Bundle := bundle.modify table fun _ => []

/-- The number of rows of all tables. -/
def count (bundle : Bundle) : Nat := (Table.all.flatMap bundle.rows).length

def isEmpty (bundle : Bundle) : Bool := bundle.count == 0

/-- The tables with rows, a parent before its children. -/
def tables (bundle : Bundle) : List (Table × List Row) :=
  (Table.all.map fun table => (table, bundle.rows table)).filter (!·.2.isEmpty)

/-- The keys of one table's rows; rows without a key are left out. -/
def ids (bundle : Bundle) (table : Table) : List String := (bundle.rows table).filterMap table.key?

/-- The column that names the agent a row belongs to. -/
def ownerColumn : String := "agent_id"

/-- Makes `owner` the owner of every row that can have one. -/
def populateOwner (bundle : Bundle) (owner : Uuid) : Bundle :=
  { bundle with rows := fun table =>
      if table.hasOwner then (bundle.rows table).map (·.insert ownerColumn (.str owner.text))
      else bundle.rows table }

end Bundle

end AgentSync
