import AgentSync.Event.Wire
import AgentSync.Job

namespace AgentSync

/-- A status, written as its name. -/
def JobStatus.decoder : Decoder JobStatus := Decoder.name JobStatus.ofName?

namespace JobRecord

/-- The fields of the wire form, in the order in which an array gives them. -/
def fieldNames : List String :=
  ["id", "name", "resource_id", "resource_type", "agent_id", "status", "success_count",
    "error_count", "errors", "time_start", "time_end", "duration_ms"]

/-- The wire form. -/
def toJson (record : JobRecord) : Json :=
  Json.object [
    ("id", .str record.id.text),
    ("name", .str record.name),
    ("resource_id", .str record.resourceId),
    ("resource_type", .str record.resourceType),
    ("agent_id", .str record.agentId.text),
    ("status", .str record.status.name),
    ("success_count", Json.ofInt record.successCount),
    ("error_count", Json.ofInt record.errorCount),
    ("errors", Json.ofStrings record.errors),
    ("time_start", .str record.timeStart.text),
    ("time_end", Json.ofInstant? record.timeEnd),
    ("duration_ms", (record.durationMillis.map Json.ofInt).getD .null)]

/-- Reads the wire form. -/
def decoder : Decoder JobRecord := fun room source => do
  let (inner, slots) ← Decoder.record fieldNames room source
  match slots with
  | [id, name, resourceId, resourceType, agentId, status, successCount, errorCount, errors,
      timeStart, timeEnd, duration] =>
    return {
      id := ← id.required inner Decoder.uuid
      name := ← name.required inner Decoder.text
      resourceId := ← resourceId.required inner Decoder.text
      resourceType := ← resourceType.required inner Decoder.text
      agentId := ← agentId.required inner Decoder.uuid
      status := ← status.required inner JobStatus.decoder
      successCount := ← successCount.required inner Decoder.int32
      errorCount := ← errorCount.required inner Decoder.int32
      errors := ← errors.orElse inner (Decoder.list Decoder.text) []
      timeStart := ← timeStart.required inner Decoder.instant
      timeEnd := ← timeEnd.optional inner Decoder.instant
      durationMillis := ← duration.optional inner Decoder.int64 }
  | _ => none

end JobRecord

end AgentSync
