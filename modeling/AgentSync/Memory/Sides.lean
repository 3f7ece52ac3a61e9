import AgentSync.Memory.Pages
import AgentSync.Sync.Push

namespace AgentSync

/-- A call to one of the two sides. -/
inductive SideCall where
  | digest (request : PageRequest)
  | rowsInWindow (request : PageRequest)
  | rowsByKeys (table : Table) (keys : List String)
  | unpushedRows (table : Table) (limit : Int)
  | markPushed (table : Table) (keys : List String)
  | markUnpushed (table : Table) (keys : List String)
  | syncAfterCursor (table : Table) (window : Duration)
  | push (bundle : Bundle)
  | delete (bundle : Bundle)
  | status (request : PageRequest)
  | pullIds (request : PageRequest)

namespace SideCall

/-- The name of the call on its side. -/
def name : SideCall → String
  | digest _ => "digest"
  | rowsInWindow _ => "rows_in_window"
  | rowsByKeys _ _ => "rows_by_keys"
  | unpushedRows _ _ => "unpushed_rows"
  | markPushed _ _ => "mark_pushed"
  | markUnpushed _ _ => "mark_unpushed"
  | syncAfterCursor _ _ => "sync_after_cursor"
  | push _ => "push"
  | delete _ => "delete"
  | status _ => "status"
  | pullIds _ => "pull_ids"

/-- Whether the call goes to the hub. -/
def isRemote : SideCall → Bool
  | push _ | delete _ | status _ | pullIds _ => true
  | _ => false

end SideCall

/-- The outcome given to a call. -/
inductive Reply where
  /-- What the side does by itself. -/
  | usual
  | failed (error : Error)
  | refused (error : HubError)
  /-- Success at once, for calls without a result. -/
  | done
  | digest (digest : PageDigest)
  | rows (rows : List Row)
  | count (n : Nat)
  | text (text : String)
  | texts (texts : List String)

/-- The outcome of some calls: of all with a name, or of one by its number among them. -/
structure Replacement where
  isRemote : Bool
  name : String
  number : Option Nat
  /-- Whether the call cancels its scope first. -/
  cancels : Bool
  reply : Reply

/-- An agent's rows and a hub, both held in memory. All calls are written down, and single calls can
be given another outcome. -/
structure Sides where
  /-- The scope that calls to the agent's side cancel. -/
  root : Scope
  localRows : Held Row
  unpushed : Held Unit
  hubRows : Held Row
  /-- The keys of the rows that the hub refuses. -/
  orphans : List String
  replacements : List Replacement
  calls : List SideCall

namespace Sides

/-- The replacement that applies to a call. -/
def replacement? (sides : Sides) (call : SideCall) : Option Replacement :=
  let isSame (other : SideCall) : Bool :=
    other.isRemote == call.isRemote && other.name == call.name
  let number := sides.calls.countP isSame
  sides.replacements.find? fun r =>
    r.isRemote == call.isRemote && r.name == call.name && r.number.all (· == number)

variable {ε α : Type}

/-- Writes a call down and gives it its outcome. -/
def answer (call : SideCall) (scope : Option Scope) (given? : Reply → Option (Except ε α))
    (usual : Sides → Except ε α × Sides) : Action (World Sides) ε α := do
  let sides ← Action.ask World.inner
  let replacement := sides.replacement? call
  let sides := { sides with calls := sides.calls ++ [call] }
  Action.update fun world => { world with inner := sides }
  if replacement.any (·.cancels) then World.cancel (scope.getD sides.root)
  match (replacement.map (·.reply)).bind given? with
  | some outcome => Action.ofExcept outcome
  | none =>
    let (outcome, sides) := usual sides
    Action.update fun world => { world with inner := sides }
    Action.ofExcept outcome

/-- The outcome of a call to the agent's side. -/
def localReply (read : Reply → Option α) : Reply → Option (Except Error α)
  | .failed error => some (.error error)
  | reply => (read reply).map .ok

/-- The outcome of a call to the hub. -/
def hubReply (read : Reply → Option α) : Reply → Option (Except HubError α)
  | .refused error => some (.error error)
  | reply => (read reply).map .ok

def readDone? : Reply → Option Unit
  | .done => some ()
  | _ => none

def readDigest? : Reply → Option PageDigest
  | .digest digest => some digest
  | _ => none

def readRows? : Reply → Option (List Row)
  | .rows rows => some rows
  | _ => none

def readCount? : Reply → Option Nat
  | .count n => some n
  | _ => none

def readText? : Reply → Option String
  | .text text => some text
  | _ => none

def readTexts? : Reply → Option (List String)
  | .texts texts => some texts
  | _ => none

/-- The agent's side. Rows that it lacks are passed over where they are asked for by key. -/
def source : LocalSource Sides where
  digest request := answer (.digest request) none (localReply readDigest?) fun sides =>
    (.ok (digestOf (sides.localRows.page request)), sides)
  rowsInWindow request := answer (.rowsInWindow request) none (localReply readRows?) fun sides =>
    (.ok ((sides.localRows.page request).map (·.2)), sides)
  rowsByKeys table keys := answer (.rowsByKeys table keys) none (localReply readRows?) fun sides =>
    (.ok (keys.filterMap (sides.localRows.of table).get?), sides)
  unpushedRows table limit :=
    answer (.unpushedRows table limit) none (localReply readRows?) fun sides =>
      let isUnpushed (entry : String × Row) : Bool :=
        ((sides.unpushed.of table).get? entry.1).isSome
      let rows := (sides.localRows.of table).entries.filter isUnpushed
      (.ok ((rows.take limit.toNat).map (·.2)), sides)
  markPushed table keys := answer (.markPushed table keys) none (localReply readCount?) fun sides =>
    (.ok keys.length, { sides with unpushed := sides.unpushed.eraseAll table keys })
  markUnpushed table keys :=
    answer (.markUnpushed table keys) none (localReply readCount?) fun sides =>
      (.ok keys.length,
        { sides with unpushed := sides.unpushed.insertAll table (keys.map (·, ())) })
  syncAfterCursor table window :=
    answer (.syncAfterCursor table window) none (localReply readText?) fun sides => (.ok "", sides)

/-- Holds the rows of a bundle that have a key and are not refused. -/
def store (sides : Sides) (bundle : Bundle) : Sides :=
  let accepted (table : Table) (rows : List Row) : List (String × Row) :=
    (table.keyed rows).filter fun e => !sides.orphans.contains e.1
  let hold (held : Held Row) (entry : Table × List Row) : Held Row :=
    held.insertAll entry.1 (accepted entry.1 entry.2)
  { sides with hubRows := bundle.tables.foldl hold sides.hubRows }

/-- The keys of a bundle that the hub refuses. -/
def refusedKeys (sides : Sides) (bundle : Bundle) : List String :=
  (bundle.tables.flatMap fun (table, _) => bundle.ids table).filter sides.orphans.contains

/-- Drops the rows that a bundle names. -/
def erase (sides : Sides) (bundle : Bundle) : Sides :=
  let drop (held : Held Row) (table : Table) : Held Row := held.eraseAll table (bundle.ids table)
  { sides with hubRows := (bundle.tables.map (·.1)).foldl drop sides.hubRows }

/-- The hub's side, as the named agent sees it. -/
def hub (agentName : String) : HubApi Sides where
  agentName
  push scope bundle :=
    answer (.push bundle) (some scope) (hubReply readDone?) fun sides =>
      let refused := sides.refusedKeys bundle
      (if refused.isEmpty then .ok () else .error (.missingParents refused), sides.store bundle)
  delete scope bundle :=
    answer (.delete bundle) (some scope) (hubReply readDone?) fun sides =>
      (.ok (), sides.erase bundle)
  status scope request :=
    answer (.status request) (some scope) (hubReply readDigest?) fun sides =>
      (.ok (digestOf (sides.hubRows.page request)), sides)
  pullIds scope request :=
    answer (.pullIds request) (some scope) (hubReply readTexts?) fun sides =>
      (.ok ((sides.hubRows.page request).map (·.1)), sides)

end Sides

end AgentSync
