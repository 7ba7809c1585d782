/-!
The kinds of business records a query can ask for, each written by its name.
-/

namespace NaturalQuery

inductive Entity where
  | invoices
  | projects
  | clients
  | tasks
  | timeEntries
  | expenses
  | estimates
  | photos
  | dailyLogs
  | subcontractors
  | scheduleEvents
  deriving Repr, BEq, DecidableEq, Inhabited

namespace Entity

def all : List Entity :=
  [invoices, projects, clients, tasks, timeEntries, expenses, estimates, photos, dailyLogs,
    subcontractors, scheduleEvents]

def name : Entity → String
  | invoices => "invoices"
  | projects => "projects"
  | clients => "clients"
  | tasks => "tasks"
  | timeEntries => "timeEntries"
  | expenses => "expenses"
  | estimates => "estimates"
  | photos => "photos"
  | dailyLogs => "dailyLogs"
  | subcontractors => "subcontractors"
  | scheduleEvents => "scheduleEvents"

def ofName? (text : String) : Option Entity :=
  all.find? (·.name == text)

theorem ofName?_name (e : Entity) : ofName? e.name = some e := by
  cases e <;> rfl

end Entity

end NaturalQuery
