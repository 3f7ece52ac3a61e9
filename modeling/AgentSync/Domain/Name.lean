import AgentSync.Domain.Label

namespace AgentSync.Domain

open Text

/-- A text with its characters mapped and composed. -/
def mapped? (cs : List Char) : Option (List Char) :=
  (cs.mapM map?).map fun texts => compose texts.flatten

/-- The labels of a name. If one of them has a letter that runs from right to left, each must read
in one direction. -/
def labels? (cs : List Char) : Option (List Label) := do
  let labels ← (splitOn '.' (← mapped? cs)).mapM Label.ofMapped?
  if labels.any (·.text.any isRightToLeft) && !labels.all (Label.readsOneWay ·.text) then none
  else some labels

/-- The form in ASCII of the name that a text stands for. A name may be written with any letters. -/
def toAscii? (cs : List Char) : Option (List Char) :=
  (labels? cs).map fun labels => ['.'].intercalate (labels.map (·.ascii))

end AgentSync.Domain
