import AgentSync.Bundle
import AgentSync.Page
import AgentSync.Retry

namespace AgentSync

/-- A value bound to a statement. -/
inductive Param where
  | null
  | text (value : String)
  | texts (values : List String)
  | integer (value : Int)
  | real (value : Binary64)
  | uuid (value : Uuid)
  | json (value : Json)
  | time (value : Instant)

namespace Param

def ofText? (value : Option String) : Param := (value.map text).getD null

def ofTime? (value : Option Instant) : Param := (value.map time).getD null

end Param

/-- A statement that is sent to a database. -/
inductive Command where
  | begin
  | commit
  | rollback
  | listen (channel : String)
  /-- Asks for nothing, to see whether the database answers. -/
  | ping
  /-- Removes events that can be claimed and answers them. -/
  | claim (watch : List String) (policy : RetryPolicy) (limit : Int)
  | enqueue (event : Event)
  /-- Puts a claimed event back, or only its failure if it is there again. -/
  | requeue (event : Event)
  | recordFailure (id : Uuid) (error : String)
  | findEvent (id : Uuid)
  | countPending (names : List String)
  /-- Events with more attempts than allowed, the last one tried first. -/
  | exhausted (maxAttempts limit : Int)
  | pageDigest (table : Table) (owner : Uuid) (start : String) (size : Int)
  | pageIds (table : Table) (owner : Uuid) (start : String) (size : Int)
  | pageRows (table : Table) (owner : Uuid) (start : String) (size : Int)
  | unpushedRows (table : Table) (owner : Uuid) (limit : Int)
  | rowsByKeys (table : Table) (keys : List String)
  | countUnpushed (table : Table)
  | markPushed (table : Table) (keys : List String)
  | markUnpushed (table : Table) (keys : List String)
  | markParentsUnpushed (table : Table) (parent : String) (keys : List String)
  /-- The key of the row changed last among those not changed for some time. -/
  | quietCursor (table : Table) (owner : Uuid) (window : Duration)
  | registerAgent (name : String)
  | touchAgent (name : String)
  | findAgent (name : String)
  | columnsOf (table : Table)
  | upsert (table : Table) (columns : List String) (rows : List Row)
  /-- Deletes rows of one agent. -/
  | deleteOwned (table : Table) (owner : Uuid) (keys : List String)
  /-- Deletes rows whatever agent they belong to. -/
  | deleteRows (table : Table) (keys : List String)
  | custom (text : String)

namespace Command

def eventColumns : String :=
  "id, name, properties, priority, delay, attempts, last_attempt, error, created_at"

/-- The text key of a row, as the database computes it. -/
def keyExpression (table : Table) (row : String) : String :=
  " || ':' || ".intercalate
    (table.primaryKey.map fun column => "(to_jsonb(" ++ row ++ "." ++ column ++ ") #>> '\x7b\x7d')")

/-- The rows of one owner after a key, as far as a page reaches. -/
def pageCondition (row : String) : String :=
  "WHERE " ++ row ++ "agent_id = $1 AND " ++ row ++ "id::text COLLATE \"C\" > $2 ORDER BY " ++
    row ++ "id::text COLLATE \"C\" LIMIT $3"

/-- A name in double quotes, as far as its first NUL; a quote inside is written twice. -/
def quotedName (name : String) : String :=
  let kept := name.toList.takeWhile (· ≠ '\x00')
  "\"" ++ String.ofList (kept.flatMap fun c => if c = '"' then ['"', '"'] else [c]) ++ "\""

/-- A column name in double quotes. -/
def quotedColumn (column : String) : String := "\"" ++ column ++ "\""

/-- What an upsert does with a row whose key is there: overwrite the other columns it names. -/
def onConflict (table : Table) (columns : List String) : String :=
  let others := columns.filter fun column => !table.primaryKey.contains column
  if others.isEmpty then "DO NOTHING"
  else
    "DO UPDATE SET " ++ ", ".intercalate
      (others.map fun column => quotedColumn column ++ " = EXCLUDED." ++ quotedColumn column)

def claimText : String :=
  "DELETE FROM event_queue WHERE id IN ( SELECT id FROM event_queue WHERE name = ANY($1) " ++
    "AND attempts <= $2 AND created_at + make_interval(secs => delay) <= NOW() " ++
    "AND (last_attempt IS NULL OR last_attempt <= NOW() - make_interval( " ++
    "secs => $3::float8 * POWER(attempts::float8, $4::float8))) " ++
    "ORDER BY priority DESC, created_at ASC LIMIT $5 FOR UPDATE SKIP LOCKED ) RETURNING " ++
    eventColumns

def insertEventText : String :=
  "INSERT INTO event_queue (" ++ eventColumns ++ ") VALUES ($1, $2, $3, $4, $5, $6, $7, $8, $9)"

def pageDigestText (table : Table) : String :=
  "WITH page AS ( SELECT id::text AS id, updated_at FROM " ++ table.name ++ " " ++
    pageCondition "" ++ " ) SELECT COALESCE(encode(sha256(convert_to( string_agg( " ++
    "id || to_char(updated_at AT TIME ZONE 'UTC', 'YYYY-MM-DD\"T\"HH24:MI:SS.US'), " ++
    "'' ORDER BY id COLLATE \"C\"), 'UTF8')), 'hex'), '') AS sha256sum, " ++
    "COALESCE(MAX(id COLLATE \"C\"), '') AS last_id, COUNT(*) AS total FROM page"

def upsertText (table : Table) (columns : List String) : String :=
  let names := ", ".intercalate (columns.map quotedColumn)
  "INSERT INTO " ++ table.name ++ " (" ++ names ++ ") SELECT " ++ names ++
    " FROM jsonb_populate_recordset(NULL::" ++ table.name ++ ", $1) ON CONFLICT (" ++
    ", ".intercalate table.primaryKey ++ ") " ++ onConflict table columns

/-- Sets the flag of the rows with given keys. -/
def flagText (table : Table) (flag : String) : String :=
  "UPDATE " ++ table.name ++ " t SET is_pushed = " ++ flag ++ " WHERE " ++
    keyExpression table "t" ++ " = ANY($1)"

/-- The text of a statement, with single blanks. -/
def text : Command → String
  | begin => "BEGIN"
  | commit => "COMMIT"
  | rollback => "ROLLBACK"
  | listen channel => "LISTEN " ++ quotedName channel
  | ping => "SELECT 1"
  | claim _ _ _ => claimText
  | enqueue _ => insertEventText
  | requeue _ =>
    insertEventText ++ " ON CONFLICT (id) DO UPDATE SET attempts = EXCLUDED.attempts, " ++
      "last_attempt = EXCLUDED.last_attempt, error = EXCLUDED.error"
  | recordFailure _ _ =>
    "UPDATE event_queue SET attempts = attempts + 1, error = $2, last_attempt = NOW() " ++
      "WHERE id = $1"
  | findEvent _ => "SELECT " ++ eventColumns ++ " FROM event_queue WHERE id = $1"
  | countPending _ => "SELECT COUNT(*) FROM event_queue WHERE name = ANY($1)"
  | exhausted _ _ =>
    "SELECT " ++ eventColumns ++
      " FROM event_queue WHERE attempts > $1 ORDER BY last_attempt DESC NULLS LAST LIMIT $2"
  | pageDigest table _ _ _ => pageDigestText table
  | pageIds table _ _ _ => "SELECT id::text FROM " ++ table.name ++ " " ++ pageCondition ""
  | pageRows table _ _ _ =>
    "SELECT to_jsonb(t) - 'is_pushed' FROM " ++ table.name ++ " t " ++ pageCondition "t."
  | unpushedRows table _ _ =>
    "SELECT to_jsonb(t) - 'is_pushed' FROM " ++ table.name ++ " t WHERE NOT t.is_pushed " ++
      (if table.hasOwner then "AND t.agent_id = $2 " else "") ++ "ORDER BY t.created_at LIMIT $1"
  | rowsByKeys table _ =>
    "SELECT to_jsonb(t) - 'is_pushed' FROM " ++ table.name ++ " t WHERE " ++
      keyExpression table "t" ++ " = ANY($1)"
  | countUnpushed table => "SELECT COUNT(*) FROM " ++ table.name ++ " WHERE NOT is_pushed"
  | markPushed table _ => flagText table "TRUE"
  | markUnpushed table _ => flagText table "FALSE"
  | markParentsUnpushed table parent _ =>
    "UPDATE " ++ table.name ++ " p SET is_pushed = FALSE WHERE p.id IN ( SELECT c." ++ parent ++
      " FROM " ++ table.name ++ " c WHERE " ++ keyExpression table "c" ++ " = ANY($1) AND c." ++
      parent ++ " IS NOT NULL )"
  | quietCursor table _ _ =>
    "SELECT id::text FROM " ++ table.name ++ " WHERE agent_id = $1 AND updated_at < NOW() - " ++
      "make_interval(secs => $2) ORDER BY updated_at DESC LIMIT 1"
  | registerAgent _ =>
    "INSERT INTO agents (name) VALUES ($1) ON CONFLICT (name) DO UPDATE SET " ++
      "name = EXCLUDED.name RETURNING id"
  | touchAgent _ =>
    "INSERT INTO agents (name, last_seen) VALUES ($1, NOW()) ON CONFLICT (name) DO UPDATE SET " ++
      "last_seen = NOW(), updated_at = NOW() RETURNING id"
  | findAgent _ => "SELECT id FROM agents WHERE name = $1"
  | columnsOf _ =>
    "SELECT column_name::text FROM information_schema.columns WHERE table_schema = " ++
      "current_schema() AND table_name = $1 ORDER BY ordinal_position"
  | upsert table columns _ => upsertText table columns
  | deleteOwned table _ _ =>
    "DELETE FROM " ++ table.name ++ " t WHERE t.agent_id = $1 AND " ++ keyExpression table "t" ++
      " = ANY($2)"
  | deleteRows table _ =>
    "DELETE FROM " ++ table.name ++ " t WHERE " ++ keyExpression table "t" ++ " = ANY($1)"
  | custom text => text

/-- The values of an event's columns, in their order. -/
def eventParams (event : Event) : List Param :=
  [.uuid event.id, .text event.name, .json (Json.ofTexts event.properties),
    .integer event.priority, .integer event.delay, .integer event.attempts,
    Param.ofTime? event.lastAttempt, Param.ofText? event.error, .time event.createdAt]

/-- The values bound to a statement, `$1` first. -/
def params : Command → List Param
  | begin | commit | rollback | listen _ | ping | countUnpushed _ | custom _ => []
  | claim watch policy limit =>
    [.texts watch, .integer policy.maxAttempts, .real policy.baseDelay.toSeconds,
      .real (Binary64.ofInt policy.exponent), .integer limit]
  | enqueue event | requeue event => eventParams event
  | recordFailure id error => [.uuid id, .text error]
  | findEvent id => [.uuid id]
  | countPending names => [.texts names]
  | exhausted maxAttempts limit => [.integer maxAttempts, .integer limit]
  | pageDigest _ owner start size | pageIds _ owner start size | pageRows _ owner start size =>
    [.uuid owner, .text start, .integer size]
  | unpushedRows table owner limit =>
    [.integer limit] ++ if table.hasOwner then [.uuid owner] else []
  | rowsByKeys _ keys | markPushed _ keys | markUnpushed _ keys | markParentsUnpushed _ _ keys |
    deleteRows _ keys => [.texts keys]
  | quietCursor _ owner window => [.uuid owner, .real window.toSeconds]
  | registerAgent name | touchAgent name | findAgent name => [.text name]
  | columnsOf table => [.text table.name]
  | upsert _ _ rows => [.json (.arr (rows.map Json.ofRow))]
  | deleteOwned _ owner keys => [.uuid owner, .texts keys]

end Command

end AgentSync
