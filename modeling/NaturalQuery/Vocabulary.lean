import NaturalQuery.Entity

/-!
The keyword tables that steer the detectors: the words that name each kind of record, the
phrases that name a status, the fields that hold amounts, dates and names, the words that name
a sort field, and the sort words that run ascending. Each table maps a key to one value; a table
read from pairs keeps a repeated key at its first place with its last value.
-/

namespace NaturalQuery

abbrev Table (κ ν : Type) := List (κ × ν)

def Table.ofPairs [BEq κ] (pairs : List (κ × ν)) : Table κ ν :=
  pairs.foldl (fun acc (k, v) =>
    if acc.any (·.1 == k) then acc.map fun p => if p.1 == k then (k, v) else p
    else acc ++ [(k, v)]) []

structure Vocabulary where
  entityKeywords : Table Entity (List String)
  statusSynonyms : Table Entity (List (String × String))
  amountFields : Table Entity String
  dateFields : Table Entity String
  nameFields : Table Entity String
  sortFieldSynonyms : Table String String
  ascendingSortWords : List String

namespace Vocabulary

def standard : Vocabulary where
  entityKeywords := [
    (.invoices, ["invoice", "invoices", "bill", "bills", "payment", "payments"]),
    (.projects, ["project", "projects", "job", "jobs"]),
    (.clients, ["client", "clients", "customer", "customers", "homeowner", "homeowners"]),
    (.tasks, ["task", "tasks", "todo", "todos", "to-do", "to-dos", "item", "items"]),
    (.timeEntries, ["time", "hours", "timesheet", "timesheets", "time entry", "time entries",
      "worked"]),
    (.expenses, ["expense", "expenses", "cost", "costs", "spending", "receipt", "receipts"]),
    (.estimates, ["estimate", "estimates", "quote", "quotes", "proposal", "proposals", "bid",
      "bids"]),
    (.photos, ["photo", "photos", "picture", "pictures", "image", "images"]),
    (.dailyLogs, ["daily log", "daily logs", "log", "logs", "report", "reports", "journal"]),
    (.subcontractors, ["subcontractor", "subcontractors", "sub", "subs", "vendor", "vendors"]),
    (.scheduleEvents, ["event", "events", "schedule", "schedules", "appointment",
      "appointments", "meeting", "meetings"])]
  statusSynonyms := [
    (.invoices, [("overdue", "overdue"), ("past due", "overdue"), ("late", "overdue"),
      ("unpaid", "sent"), ("outstanding", "sent"), ("pending", "draft"), ("paid", "paid"),
      ("draft", "draft")]),
    (.projects, [("active", "ACTIVE"), ("ongoing", "ACTIVE"), ("in progress", "ACTIVE"),
      ("completed", "COMPLETED"), ("finished", "COMPLETED"), ("done", "COMPLETED"),
      ("on hold", "ON_HOLD"), ("paused", "ON_HOLD"), ("cancelled", "CANCELLED")]),
    (.tasks, [("open", "open"), ("pending", "pending"), ("in progress", "in_progress"),
      ("completed", "completed"), ("done", "completed"), ("overdue", "overdue")]),
    (.estimates, [("pending", "pending"), ("sent", "sent"), ("accepted", "accepted"),
      ("approved", "accepted"), ("declined", "declined"), ("rejected", "declined"),
      ("draft", "draft")]),
    (.clients, [("inactive", "inactive"), ("active", "active")]),
    (.subcontractors, [("active", "ACTIVE"), ("approved", "APPROVED"), ("pending", "PENDING")])]
  amountFields := [(.invoices, "amount"), (.expenses, "amount"), (.estimates, "amount"),
    (.projects, "budget")]
  dateFields := [(.invoices, "dueDate"), (.projects, "startDate"), (.clients, "createdAt"),
    (.tasks, "dueDate"), (.timeEntries, "date"), (.expenses, "date"), (.estimates, "createdAt"),
    (.photos, "uploadedAt"), (.dailyLogs, "date"), (.subcontractors, "createdAt"),
    (.scheduleEvents, "startTime")]
  nameFields := [(.projects, "clientName"), (.invoices, "clientName"),
    (.estimates, "clientName"), (.clients, "name"), (.tasks, "assigneeName"),
    (.timeEntries, "assigneeName")]
  sortFieldSynonyms := [("date", "createdAt"), ("amount", "amount"), ("name", "name"),
    ("status", "status"), ("due", "dueDate"), ("budget", "budget"), ("created", "createdAt"),
    ("updated", "updatedAt")]
  ascendingSortWords := ["name", "status"]

def amountField? (v : Vocabulary) (e : Entity) : Option String := v.amountFields.lookup e

def dateField (v : Vocabulary) (e : Entity) : String := (v.dateFields.lookup e).getD "createdAt"

def nameField? (v : Vocabulary) (e : Entity) : Option String := v.nameFields.lookup e

def statuses (v : Vocabulary) (e : Entity) : List (String × String) :=
  (v.statusSynonyms.lookup e).getD []

def sortField? (v : Vocabulary) (word : String) : Option String := v.sortFieldSynonyms.lookup word

def isAscending (v : Vocabulary) (word : String) : Bool := v.ascendingSortWords.contains word

end Vocabulary

end NaturalQuery
