import AgentSync.Event
import AgentSync.Json.Decode
import AgentSync.Time.Rfc3339

namespace AgentSync

/-- A time written as text. -/
def Decoder.instant : Decoder Instant := fun room source => do
  Instant.ofText? (← Decoder.text room source)

/-- An identifier written as text. -/
def Decoder.uuid : Decoder Uuid := fun room source => do
  Uuid.ofText? (← Decoder.text room source)

/-- A time as text, or null. -/
def Json.ofInstant? (time : Option Instant) : Json := Json.ofOption (time.map Instant.text)

namespace Event

/-- The fields of the wire form, in the order in which an array gives them. -/
def fieldNames : List String :=
  ["id", "name", "properties", "priority", "delay", "attempts", "last_attempt", "error",
    "created_at"]

/-- The wire form. -/
def toJson (event : Event) : Json :=
  Json.object [
    ("id", .str event.id.text),
    ("name", .str event.name),
    ("properties", Json.ofTexts event.properties),
    ("priority", Json.ofInt event.priority),
    ("delay", Json.ofInt event.delay),
    ("attempts", Json.ofInt event.attempts),
    ("last_attempt", Json.ofInstant? event.lastAttempt),
    ("error", Json.ofOption event.error),
    ("created_at", .str event.createdAt.text)]

/-- Reads the wire form. An event needs an identifier, a name and a time of creation. -/
def decoder : Decoder Event := fun room source => do
  let (inner, slots) ← Decoder.record fieldNames room source
  match slots with
  | [id, name, properties, priority, delay, attempts, lastAttempt, error, createdAt] =>
    return {
      id := ← id.required inner Decoder.uuid
      name := ← name.required inner Decoder.text
      properties := ← properties.orElse inner Decoder.texts default
      priority := ← priority.orElse inner Decoder.int32 0
      delay := ← delay.orElse inner Decoder.int32 0
      attempts := ← attempts.orElse inner Decoder.int32 0
      lastAttempt := ← lastAttempt.optional inner Decoder.instant
      error := ← error.optional inner Decoder.text
      createdAt := ← createdAt.required inner Decoder.instant }
  | _ => none

end Event

end AgentSync
