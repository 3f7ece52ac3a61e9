import AgentSync.Time.Instant
import AgentSync.Uuid
import AgentSync.Word

namespace AgentSync

/-- How a run stands. -/
inductive JobStatus where
  | running
  | success
  | warning
  | failed
  | skipped
  deriving DecidableEq, Repr, Inhabited

namespace JobStatus

def all : List JobStatus := [running, success, warning, failed, skipped]

def name : JobStatus → String
  | running => "RUNNING"
  | success => "SUCCESS"
  | warning => "WARNING"
  | failed => "FAILED"
  | skipped => "SKIPPED"

def ofName? (name : String) : Option JobStatus := all.find? (·.name == name)

end JobStatus

/-- The record of a run over one resource. -/
structure JobRecord where
  id : Uuid
  name : String
  resourceId : String
  resourceType : String
  agentId : Uuid
  status : JobStatus
  successCount : Int
  errorCount : Int
  errors : List String
  timeStart : Instant
  timeEnd : Option Instant
  /-- Whole milliseconds from start to end. -/
  durationMillis : Option Int
  deriving DecidableEq, Repr, Inhabited

namespace JobRecord

/-- A run that has just begun. -/
def start (id : Uuid) (name resourceType resourceId : String) (now : Instant) : JobRecord where
  id
  name
  resourceId
  resourceType
  agentId := .nil
  status := .running
  successCount := 0
  errorCount := 0
  errors := []
  timeStart := now
  timeEnd := none
  durationMillis := none

def withAgent (record : JobRecord) (agentId : Uuid) : JobRecord := { record with agentId }

def addError (record : JobRecord) (error : String) : JobRecord :=
  { record with
    errorCount := Word.wrap32 (record.errorCount + 1)
    errors := record.errors ++ [error] }

def incrementSuccess (record : JobRecord) : JobRecord :=
  { record with successCount := Word.wrap32 (record.successCount + 1) }

/-- Closes the record. Its status follows from the counts. -/
def close (record : JobRecord) (now : Instant) : JobRecord :=
  { record with
    timeEnd := some now
    durationMillis := some (now.millisSince record.timeStart)
    status :=
      if record.errorCount = 0 then .success
      else if record.successCount = 0 then .failed
      else .warning }

end JobRecord

end AgentSync
