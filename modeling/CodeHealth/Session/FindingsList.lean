import CodeHealth.Session.Mutation

/-! A list of findings on screen: filters, paging, a selection, and triage of all that is
selected. -/
namespace CodeHealth

open Std.PRange (succ?)

/-- Sets of ids, in ascending order of their bytes. -/
abbrev Selection := List String

namespace Selection

def insert (id : String) : Selection → Selection
  | [] => [id]
  | x :: xs =>
    match Text.order id x with
    | .lt => id :: x :: xs
    | .eq => x :: xs
    | .gt => x :: insert id xs

def insertAll (s : Selection) (ids : List String) : Selection := ids.foldl (fun s id => insert id s) s

end Selection

structure FindingsList where
  filters : FindingFilters := {}
  params : ListParams := {}
  selection : Selection := []

namespace FindingsList

/-- New filters start from the first page with nothing selected. -/
def setFilters (l : FindingsList) (filters : FindingFilters) : FindingsList :=
  if filters = l.filters then l
  else { filters, params := { l.params with page := 1 }, selection := [] }

def setParams (l : FindingsList) (params : ListParams) : FindingsList := { l with params }

def setPage (l : FindingsList) (page : UInt32) : FindingsList :=
  { l with params := { l.params with page := ListParams.clamp page } }

def goToPage (l : FindingsList) (page : UInt32) : FindingsList := l.setPage page

/-- The list on its next page, if there is a number for it. -/
def nextPage (l : FindingsList) : Option FindingsList :=
  (succ? l.params.page).map fun page => { l with params := { l.params with page } }

def previousPage (l : FindingsList) : FindingsList :=
  l.setPage (if l.params.page = 0 then 0 else l.params.page - 1)

def isSelected (l : FindingsList) (id : String) : Bool := l.selection.contains id

def select (l : FindingsList) (id : String) : FindingsList :=
  { l with selection := Selection.insert id l.selection }

def deselect (l : FindingsList) (id : String) : FindingsList :=
  { l with selection := l.selection.filter (· ≠ id) }

def toggle (l : FindingsList) (id : String) : FindingsList :=
  if l.isSelected id then l.deselect id else l.select id

def selectPage (l : FindingsList) (page : Page Finding) : FindingsList :=
  { l with selection := Selection.insertAll l.selection (page.items.map (·.id)) }

def clearSelection (l : FindingsList) : FindingsList := { l with selection := [] }

variable {β : Type} [Backend β]

/-- The current page. -/
def load (l : FindingsList) (c : Client) (w : World β) : ReadState (Page Finding) × World β :=
  (Query.findings l.filters l.params).handle.read c w

/-- Counts for the repository that the filters name. -/
def summary (l : FindingsList) (c : Client) (w : World β) : ReadState SeverityCounts × World β :=
  (Query.findingsSummary l.filters.repositoryId).handle.read c w

def nothingSelected : Explanation :=
  (Explanation.ofCode .validationFailed).withMessage "No findings selected."

/-- Gives all selected findings one status. On success nothing is selected any more. -/
def bulkMark (l : FindingsList) (status : TriageStatus) (reason : Option String) (c : Client)
    (w : World β) : Except Explanation BulkUpdate × FindingsList × World β :=
  if l.selection.isEmpty then (.error nothingSelected, l, w)
  else
    match (Change.triageAll l.selection status reason).mutation.run c w with
    | (.ok r, w) => (.ok r, l.clearSelection, w)
    | (.error e, w) => (.error e, l, w)

end FindingsList

end CodeHealth
