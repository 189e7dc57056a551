import TenantReports.Report.LayoutJson
import TenantReports.Time.Instant

/-!
# Saved reports

## Main definitions

* `ReportInfo`: what is known of a saved report besides its layout and times
* `Definition`: a saved report
* `Definition.new`: one that has not been saved yet
-/

namespace TenantReports

open Time (Instant)

/-- What is known of a saved report besides its layout and times. -/
structure ReportInfo where
  id : Int := 0
  tenant : Int
  user : Int
  name : String
  description : Option String := none
  category : Option String := none
  shared : Bool := false
  favorite : Bool := false
  /-- The default report of its category. -/
  isDefault : Bool := false
  /-- The number of runs that counted. -/
  executionCount : Int := 0
  /-- It has an active schedule. -/
  scheduled : Bool := false
  /-- One more for each change of the layout. -/
  version : Int := 1
  /-- The digest of the layout. -/
  hash : String
deriving DecidableEq, Repr

/-- A saved report. -/
structure Definition extends ReportInfo where
  layout : Layout
  lastExecutedAt : Option Instant := none
  createdAt : Instant
  updatedAt : Instant

/-- A report that has not been saved yet. -/
def Definition.new (tenant user : Int) (name : String) (layout : Layout) (now : Instant) :
    Definition :=
  { tenant, user, name, hash := layout.hash, layout, createdAt := now, updatedAt := now }

end TenantReports
