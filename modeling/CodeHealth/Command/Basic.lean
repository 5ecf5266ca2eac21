/-! The commands of the program. Words for which there is an enumeration stand as the user wrote
them: they are read when the command runs. -/
namespace CodeHealth

/-- What a list of findings is narrowed down to. -/
structure FindingWords where
  severity : Option String
  detector : Option String
  status : Option String
  category : Option String
  repository : Option String
  run : Option String
  search : Option String
  deriving DecidableEq

inductive FixAction where
  | look (id : String)
  | approve (ids : List String)
  | reject (ids : List String) (reason : Option String)
  | apply (id : String)
  | preview (id : String)
  | comment (id text : String)
  | comments (id : String)
  deriving DecidableEq

inductive RepositoryAction where
  | list (page : UInt32)
  | connect (fullName : String)
  | remove (id : String)
  | history (id : String) (page : UInt32)
  deriving DecidableEq

inductive BillingAction where
  | overview
  | invoices (page : UInt32)
  | upgrade (tier : String) (seats : UInt32)
  | portal
  deriving DecidableEq

inductive SettingsAction where
  | init
  | look
  | set (key value : String)
  deriving DecidableEq

inductive PreferencesAction where
  | look
  | set (key : String) (value : Bool)
  | reset
  deriving DecidableEq

/-- Commands that talk to the service. -/
inductive Errand where
  | findings (words : FindingWords) (page pageSize : UInt32) (sort : Option String)
      (ascending : Bool)
  | finding (id : String)
  | summary (repository : Option String) (top : UInt32)
  | triage (ids : List String) (status : String) (reason : Option String)
  | fixes (status confidence repository finding : Option String) (page pageSize : UInt32)
  | fix (action : FixAction)
  | dashboard (repository : Option String)
  | trends (period : String) (repository : Option String)
  | repositories (action : RepositoryAction)
  | analyze (repository : String) (wait : Bool)
  | run (id : String) (wait : Bool)
  | billing (action : BillingAction)
  | assets (kind search : Option String) (verified : Bool) (page : UInt32)
  | installedAssets
  | install (slug : String)
  | uninstall (slug : String)
  deriving DecidableEq

inductive Command where
  | errand (e : Errand)
  | settings (action : SettingsAction)
  | preferences (action : PreferencesAction)
  | checkup
  | version
  deriving DecidableEq

end CodeHealth
