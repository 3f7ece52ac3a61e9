import AgentSync.Http.Message
import AgentSync.Proofs.Json.Decode

namespace AgentSync

/-- Texts are read back from their content. -/
theorem itemsToJson?_texts (read : String → Option Json) (room : Room) (texts : List String) :
    Source.itemsToJson? read room (Json.itemsContent (texts.map .str)) =
      some (texts.map .str) := by
  induction texts with
  | nil => rfl
  | cons text rest ih =>
    rw [List.map_cons, Json.itemsContent, Source.itemsToJson?, ih]
    rfl

theorem mapM_text_toSource (room : Room) (texts : List String) :
    (Json.itemsToSource (texts.map .str)).mapM (Decoder.text room) = some texts := by
  induction texts with
  | nil => rfl
  | cons text rest ih =>
    rw [List.map_cons, Json.itemsToSource, List.mapM_cons, ih]
    rfl

/-- The body of a conflict is read back with the same keys in the same order. -/
theorem ConflictBody.ofJson?_toJson (ids : List String) :
    ConflictBody.decoder.ofJson? (ConflictBody.mk ids).toJson = some ⟨ids⟩ := by
  have hslots : Decoder.record ["ids"] none (ConflictBody.mk ids).toJson.toSource =
      some (none, [.given (.arr (Json.itemsToSource (ids.map .str)))]) := rfl
  have hlist : Decoder.Slot.orElse none (Decoder.list Decoder.text) []
      (.given (.arr (Json.itemsToSource (ids.map .str)))) = some ids :=
    mapM_text_toSource none ids
  unfold Decoder.ofJson? ConflictBody.decoder
  rw [hslots, Option.bind_eq_bind, Option.bind_some]
  dsimp only
  rw [hlist]
  rfl

/-- A success is not taken for a conflict. -/
theorem Response.status_ne_of_isSuccess {response : Response}
    (hsuccess : response.isSuccess = true) : response.status ≠ 422 := by
  simp only [isSuccess, Bool.and_eq_true, decide_eq_true_eq] at hsuccess
  omega

namespace HubError

/-- The data of a report as the agent reads it. -/
theorem dataDecoder_body (error : ApiError) : dataDecoder.ofText? error.body.text =
    Decoder.nullable Decoder.json (some 126) error.data.content := by
  have hdata : (Dict.ofList [("error", Json.str error.code), ("message", .str error.message),
      ("data", error.data)]).get? "data" = some error.data := by
    simp [Dict.ofList, Dict.get?_insert]
  unfold Decoder.ofText? dataDecoder Decoder.record
  rw [Source.ofText?_text, Option.bind_eq_bind, Option.bind_some, ApiError.body, Json.object,
    Json.isView_content.obj]
  simp only [Decoder.objectSlots_view, List.map_cons, List.map_nil, Decoder.slotOf, hdata]
  rfl

/-- A report of a conflict has the keys in its data. -/
theorem dataDecoder_conflict (ids : List String) :
    dataDecoder.ofText? (ApiError.conflict ids).body.text =
      some (some (ConflictBody.mk ids).toJson) := by
  have htexts := itemsToJson?_texts Json.ofText? (some 124) ids
  have hvalue : Source.toJson? (some 126) (ConflictBody.mk ids).toJson.content =
      some (ConflictBody.mk ids).toJson := by
    have hentries : (Dict.ofList [("ids", Json.ofStrings ids)]).entries =
        [("ids", Json.ofStrings ids)] := rfl
    have harray : Source.toJsonWith? Json.ofText? (some 125) (Json.ofStrings ids).content =
        some (Json.ofStrings ids) := by
      rw [Json.ofStrings, Json.content, Source.toJsonWith?]
      change (Source.itemsToJson? Json.ofText? (some 124) _).bind _ = _
      rw [htexts]
      rfl
    have hkey : Source.embeddingKey ≠ "ids" := by decide
    unfold ConflictBody.toJson Json.object
    rw [Source.toJson?, Json.content, Source.toJsonWith?, hentries]
    simp only [Json.entriesContent, Source.embedded?, if_neg hkey.symm, Source.entriesToJson?,
      Room.enter?, harray, Option.bind_eq_bind, Option.bind_some]
    rfl
  rw [dataDecoder_body]
  change (Source.toJson? (some 126) (ConflictBody.mk ids).toJson.content).map some = _
  rw [hvalue, Option.map_some]

/-- A report is read as a conflict exactly if it is one that names keys, and then with these keys;
any other report is read as its status and body. -/
theorem ofResponse_response (error : ApiError) :
    ofResponse error.response.status error.response.body =
      match error with
      | .conflict (id :: rest) => .missingParents (id :: rest)
      | error => .status error.status error.body.text := by
  change ofResponse error.status error.body.text = _
  unfold ofResponse
  cases error with
  | conflict ids =>
    rw [dataDecoder_conflict]
    dsimp only [Option.bind_eq_bind, Option.bind_some]
    rw [ConflictBody.ofJson?_toJson]
    cases ids <;> rfl
  | _ =>
    rw [dataDecoder_body]
    rfl

/-- The agent reads a conflict over some rows off its status and body. -/
theorem ofResponse_conflict {ids : List String} (hids : ids ≠ []) :
    ofResponse (ApiError.conflict ids).response.status (ApiError.conflict ids).response.body =
      .missingParents ids := by
  obtain ⟨id, rest, rfl⟩ := List.exists_cons_of_ne_nil hids
  exact ofResponse_response (.conflict (id :: rest))

/-- What an agent makes of a failed operation of the hub: what it reads off the response that
reports the failure. -/
def ofReport (error : Error) : HubError :=
  ofResponse (ApiError.ofError error).response.status (ApiError.ofError error).response.body

/-- A conflict over some rows arrives as one over the same rows. -/
theorem ofReport_conflict {ids : List String} (hids : ids ≠ []) :
    ofReport (.conflict ids) = .missingParents ids :=
  ofResponse_conflict hids

/-- Only the keys of a conflict make a report of one. -/
theorem ofReport_of_no_keys {error : Error} (hnone : ∀ ids, error = .conflict ids → ids = []) :
    ofReport error = .status (ApiError.ofError error).response.status
      (ApiError.ofError error).response.body := by
  rw [ofReport, ofResponse_response]
  cases error with
  | conflict ids =>
    obtain rfl := hnone ids rfl
    rfl
  | _ => rfl

/-- A failure of the hub and what the agent makes of it: a conflict over some rows arrives as the
conflict over the same rows in the same order; any other failure, a conflict over no rows included,
arrives as its status and body and is no conflict, whatever its text says. -/
theorem ofReport_exact (error : Error) :
    (∀ ids, ofReport error = .missingParents ids ↔ error = .conflict ids ∧ ids ≠ []) ∧
    (∀ ids, (ofReport error).toError = .conflict ids ↔ error = .conflict ids ∧ ids ≠ []) ∧
    ((∃ ids, error = .conflict ids ∧ ids ≠ []) ∨
      ofReport error = .status (ApiError.ofError error).response.status
        (ApiError.ofError error).response.body ∧
      (ofReport error).toError.isConflict = false) := by
  by_cases hkeys : ∃ ids, error = .conflict ids ∧ ids ≠ []
  · obtain ⟨keys, rfl, hkeys⟩ := hkeys
    have hread := ofReport_conflict hkeys
    refine ⟨fun ids => ?_, fun ids => ?_, .inl ⟨keys, rfl, hkeys⟩⟩
    · rw [hread]
      constructor
      · rintro ⟨⟩
        exact ⟨rfl, hkeys⟩
      · rintro ⟨⟨⟩, -⟩
        rfl
    · rw [hread, toError]
      exact (and_iff_left_of_imp fun hsame => Error.conflict.inj hsame ▸ hkeys).symm
  · have hread := ofReport_of_no_keys fun ids hconflict =>
      not_not.mp fun hids => hkeys ⟨ids, hconflict, hids⟩
    have hnot (ids : List String) : ¬(error = .conflict ids ∧ ids ≠ []) := fun h =>
      hkeys ⟨ids, h⟩
    refine ⟨fun ids => ?_, fun ids => ?_, .inr ⟨hread, ?_⟩⟩
    · rw [hread]
      exact iff_of_false nofun (hnot ids)
    · rw [hread]
      exact iff_of_false nofun (hnot ids)
    · rw [hread]
      rfl

end HubError

end AgentSync
