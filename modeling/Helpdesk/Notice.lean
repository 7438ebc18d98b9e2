import Helpdesk.Value

/-!
# Helpdesk.Notice — what operators are told.

Work goes on when something goes wrong beside it; a notice is what is left of it. A notice has a
level, the name of what happened and some fields.
-/
namespace Helpdesk

structure Notice where
  isError : Bool
  event : String
  fields : Entries

namespace Notice

/-- A notice that something is not as it should be. -/
def warning (event : String) (fields : Entries) : Notice := ⟨false, event, fields⟩

/-- A notice that something failed. -/
def error (event : String) (fields : Entries) : Notice := ⟨true, event, fields⟩

end Notice

end Helpdesk
