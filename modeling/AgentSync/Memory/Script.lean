import AgentSync.Http.Client
import AgentSync.Store.Database

namespace AgentSync

namespace Param

/-- A bound value as JSON. -/
def toJson : Param → Json
  | null => .null
  | text value => .str value
  | texts values => Json.ofStrings values
  | integer value => Json.ofInt value
  | real value => .num (.real value)
  | uuid value => .str value.text
  | json value => value
  | time value => .str value.stored.text

end Param

namespace Command

/-- Whether a statement controls a transaction or a channel and answers nothing. -/
def isControl : Command → Bool
  | begin | commit | rollback | listen _ => true
  | _ => false

/-- Whether a statement has a given first value. -/
def hasFirstParam (command : Command) (value : Json) : Bool :=
  (command.params.head?.map Param.toJson).any (· == value)

end Command

/-- A scripted answer of a database, for statements that begin with a text and have a first value,
if these are given. -/
structure ScriptedAnswer where
  start : Option String
  param : Option Json
  answer : Except DatabaseError Answer

/-- A database that answers from two lists: entries of the first are used again and again, of the
second once, in turn. -/
structure ScriptedDatabase where
  always : List ScriptedAnswer
  once : List ScriptedAnswer
  sent : List Command

namespace ScriptedDatabase

/-- An empty answer. -/
def nothing : Except DatabaseError Answer := .ok ⟨[], 0⟩

/-- Whether an entry for statements with a given beginning is for a statement. -/
def startsWith (entry : ScriptedAnswer) (command : Command) : Bool :=
  entry.start.all fun start => start.toList.isPrefixOf command.text.toList

/-- Whether an entry is for a statement. Control statements only take entries that name them. -/
def fits (entry : ScriptedAnswer) (command : Command) : Bool :=
  startsWith entry command && (entry.start.isSome || !command.isControl)

/-- Whether an entry that stays fits a statement and its first value. -/
def fitsAlways (entry : ScriptedAnswer) (command : Command) : Bool :=
  entry.start.isSome && startsWith entry command && entry.param.all command.hasFirstParam

/-- Writes a statement down and answers it. -/
def send (command : Command) : StateM ScriptedDatabase (Except DatabaseError Answer) := do
  let script ← get
  let script := { script with sent := script.sent ++ [command] }
  set script
  match script.always.find? (fitsAlways · command) with
  | some entry => return entry.answer
  | none =>
    match script.once with
    | entry :: rest =>
      if fits entry command then
        set { script with once := rest }
        return entry.answer
      else return nothing
    | [] => return nothing

def database : Database ScriptedDatabase := ⟨send⟩

end ScriptedDatabase

/-- What a network does with a request. -/
inductive NetworkEvent where
  | respond (response : Response)
  /-- Never answers, until the request is given up. -/
  | hang
  /-- The scope of the request is cancelled while it waits. -/
  | cancel

/-- A network that follows a script and writes requests down. Without a network no request gets an
answer and none is written down. -/
structure ScriptedNetwork where
  isThere : Bool
  script : List NetworkEvent
  sent : List Request

namespace ScriptedNetwork

/-- Sends a request. With the script used up an empty response comes. -/
def send (scope : Scope) (request : Request) :
    Action (World ScriptedNetwork) HubError Response := do
  let network ← Action.ask World.inner
  if !network.isThere then throw (.transport false "error sending request")
  Action.update fun world =>
    { world with inner :=
        { network with script := network.script.drop 1, sent := network.sent ++ [request] } }
  match network.script.head? with
  | some (.respond response) => return response
  | some .hang => throw (.transport true "operation timed out")
  | some .cancel =>
    World.cancel scope
    throw .cancelled
  | none => return ⟨200, none, none, ""⟩

def transport : Transport ScriptedNetwork := ⟨send⟩

end ScriptedNetwork

end AgentSync
