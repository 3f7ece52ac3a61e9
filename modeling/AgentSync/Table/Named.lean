import AgentSync.Error
import AgentSync.Table

namespace AgentSync.Table

/-- The table with a name. -/
def named (name : String) : Except Error Table :=
  match ofName? name with
  | some table => .ok table
  | none => .error (.invalidInput ("unknown sync table: " ++ name))

/-- Fails unless pages of the table can be compared. -/
def requireReconcilable (table : Table) : Except Error Unit :=
  if table.isReconcilable then .ok ()
  else .error (.invalidInput ("table " ++ table.name ++ " cannot be reconciled"))

end AgentSync.Table
