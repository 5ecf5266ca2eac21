import CodeHealth.Billing
import CodeHealth.Display.Parts
import CodeHealth.Page

/-! Plans, usage and invoices on the terminal. -/
namespace CodeHealth.Display

open Terminal

def usageOf (used : UInt32) : Option UInt32 → String
  | some limit => toString used.toNat ++ "/" ++ toString limit.toNat
  | none => toString used.toNat ++ " (unlimited)"

def caution (s : String) : Line := ["   ", (text "!").yellow.bold, " ", s]

def usage (u : Usage) : List Line :=
  stack [
    [labelled "Repositories:" [usageOf u.reposUsed u.reposLimit],
      labelled "Analyses:" [usageOf u.analysesThisMonth u.analysesLimit],
      labelled "Seats:" [usageOf u.seatsUsed u.seatsLimit]],
    if u.atRepoLimit then [caution "Repository limit reached; upgrade to connect more"] else [],
    if u.remainingAnalyses = some 0 then [caution "No analyses left this month"] else []]

def billing (s : Subscription) (u : Usage) : List Line :=
  let plan := text (Label.name s.tier)
  stack [
    [heading "💳 Billing", [],
      labelled "Plan:" [if s.isPaid then plan.green.bold else plan.bold, " (", s.status.title, ")"]],
    labelled? (if s.cancelAtPeriodEnd then "Ends:" else "Renews:")
      (s.currentPeriodEnd.map Instant.writeDate),
    usage u]

def invoiceRow (v : Invoice) : Line :=
  ["   ", (text ((v.createdAt.map Instant.writeDate).getD "")).dim, "  ",
    Text.padStart 14 v.amount, "  ", Text.padEnd 6 v.status, "  ", v.number.getD v.id]

def invoices (p : Page Invoice) : List Line :=
  stack [if p.items.isEmpty then [["No invoices yet."]] else [], p.items.map invoiceRow]

/-- Where to go on. -/
def redirect (lead : String) (r : Redirect) : List Line :=
  [[lead], ["   ", (text r.url).cyan.underlined]]

end CodeHealth.Display
