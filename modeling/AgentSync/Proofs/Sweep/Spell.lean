import AgentSync.Proofs.Dict
import AgentSync.Proofs.World

namespace AgentSync

/-- The characters of a text, each behind a dot, closed by a comma. -/
def spellText (text : List Char) : List Char := text.flatMap (['.', ·]) ++ [',']

/-- All keys and times of change, one after another. -/
def spellVersions (versions : List (String × String)) : List Char :=
  versions.flatMap fun version => spellText version.1.toList ++ spellText version.2.toList

/-- The hash that spells versions out. -/
def spell (versions : List (String × String)) : String := String.ofList (spellVersions versions)

/-- A spelled text shows where it ends. -/
theorem spellText_inj (text : List Char) : ∀ {other rest more : List Char},
    spellText text ++ rest = spellText other ++ more → text = other ∧ rest = more := by
  induction text with
  | nil =>
    intro other rest more heq
    cases other with
    | nil => exact ⟨rfl, (List.cons.inj heq).2⟩
    | cons d ds => cases (List.cons.inj heq).1
  | cons c cs ih =>
    intro other rest more heq
    cases other with
    | nil => cases (List.cons.inj heq).1
    | cons d ds =>
      obtain ⟨hchar, htail⟩ := List.cons.inj (List.cons.inj heq).2
      obtain ⟨hchars, hrest⟩ := ih htail
      exact ⟨hchar ▸ hchars ▸ rfl, hrest⟩

/-- No two lists of versions are spelled alike. -/
theorem spellVersions_inj (versions : List (String × String)) :
    ∀ others, spellVersions versions = spellVersions others → versions = others := by
  induction versions with
  | nil =>
    intro others heq
    cases others with
    | nil => rfl
    | cons other rest =>
      simp [spellVersions, spellText] at heq
  | cons version versions ih =>
    intro others heq
    cases others with
    | nil => simp [spellVersions, spellText] at heq
    | cons other others =>
      simp only [spellVersions, List.flatMap_cons, List.append_assoc] at heq
      obtain ⟨hkey, hmore⟩ := spellText_inj _ heq
      obtain ⟨htime, hrest⟩ := spellText_inj _ hmore
      rw [ih others hrest, Prod.ext (String.toList_inj.mp hkey) (String.toList_inj.mp htime)]

/-- Spelling versions out tells them apart. -/
theorem spell_injective : Function.Injective spell := fun versions others heq =>
  spellVersions_inj versions others (String.ofList_injective heq)

/-- A row with nothing but a key and a time of change. -/
def versionRow (key time : String) : Row :=
  ⟨[("id", .str key), ("updated_at", .str time)],
    List.pairwise_pair.mpr (show ("id" : String) < "updated_at" by decide)⟩

theorem key?_versionRow (key time : String) :
    Table.checks.key? (versionRow key time) = some key := by
  simp [Table.key?, Table.keyParts?, Table.primaryKey, Table.keyPart?, versionRow, Dict.get?]

theorem changeTime_versionRow (key time : String) : changeTime (versionRow key time) = time := by
  simp [changeTime, versionRow, Dict.get?, Json.string?]

/-- Rows with nothing but their versions. -/
def versionRows (times : Dict String) : Dict Row :=
  ⟨times.entries.map fun entry => (entry.1, versionRow entry.1 entry.2),
    List.pairwise_map.mpr times.sorted⟩

/-- Two sides that hold rows of one table, with nothing but their versions. -/
def Replica.ofTimes (times hubTimes : Dict String) (hkeys : "" ∉ times.keys) : Replica where
  localRows
    | .checks => ⟨versionRows times, fun entry hmem => by
        obtain ⟨version, hversion, rfl⟩ := List.mem_map.mp hmem
        refine ⟨key?_versionRow _ _, fun hempty => hkeys ?_⟩
        exact hempty ▸ List.mem_map_of_mem hversion⟩
    | _ => ⟨.empty, fun _ hmem => nomatch hmem⟩
  unpushed _ := []
  cursor _ _ := ""
  hubRows
    | .checks => versionRows hubTimes
    | _ => .empty
  calls := []

/-- Two sides in a world with a single scope. -/
def Replica.world (replica : Replica) : World Replica where
  now := default
  serial := 0
  scopes := Scopes.none.root.2
  metrics := default
  inner := replica

theorem Replica.isLive_world (replica : Replica) :
    replica.world.scopes.IsLive Scopes.none.root.1 := fun _ hmem => nomatch hmem

end AgentSync
