import CertRegistry.Json.Order

/-!
# Settings

The settings that the registry's rules read, and the named settings that stand behind them: a
table of values, some of them overridden and some removed. A removed setting has the value that
its reader falls back to, or none where a reader falls back to nothing. A setting may have a value
of any type; only the rule that needs a number finds out whether it is one.
-/

namespace CertRegistry

/-- What the registry's rules depend on. -/
structure Settings where
  /-- Whether error texts are shown unredacted; there is nothing to fall back to. -/
  debug : Option Bool := some true
  /-- For how many days an issued certificate holds. -/
  validityDays : Json := .int 365
  /-- How many days before its end a certificate counts as expiring. -/
  expiringDays : Json := .int 30
  /-- The size of a page when none is asked for. -/
  defaultPageSize : Json := .int 20
  /-- The largest size of a page. -/
  maxPageSize : Json := .int 100
  /-- How many fields a query string or a form may have, null for any number; there is nothing to
  fall back to. -/
  maxFields : Option Json := some (.int 1000)
  /-- How many bytes a body may have, null for any number; there is nothing to fall back to. -/
  maxBodySize : Option Json := some (.int 2621440)

/-- Changes to the named settings. -/
structure Overrides where
  values : List (Text × Json) := []
  removed : List Text := []

/-- The changes of both, the later ones winning. -/
def Overrides.append (a b : Overrides) : Overrides where
  values := a.values.filter (fun v => v.1 ∉ b.removed) ++ b.values
  removed := a.removed.filter (fun n => b.values.all (·.1 ≠ n)) ++ b.removed

/-- The value of a named setting under some changes to a table of settings. -/
def Overrides.lookup (o : Overrides) (table : List (Text × Json)) (name : Text) : Option Json :=
  if name ∈ o.removed then none
  else (o.values.reverse.lookup name).or (table.lookup name)

namespace Settings

/-- The named settings that the registry's rules read, as they are where nothing is changed. -/
def table : List (Text × Json) :=
  [("DEBUG", .bool true),
    ("CERTIFICATE_VALIDITY_DAYS", .int 365),
    ("CERTIFICATE_EXPIRING_DAYS", .int 30),
    ("CERTIFICATE_DEFAULT_PAGE_SIZE", .int 20),
    ("CERTIFICATE_MAX_PAGE_SIZE", .int 100),
    ("DATA_UPLOAD_MAX_NUMBER_FIELDS", .int 1000),
    ("DATA_UPLOAD_MAX_MEMORY_SIZE", .int 2621440)]

/-- The settings under some changes. -/
def ofOverrides (o : Overrides) : Settings :=
  let value (name : Text) : Option Json := o.lookup table name
  { debug := (value "DEBUG").map Json.isTrue
    validityDays := (value "CERTIFICATE_VALIDITY_DAYS").getD (.int 365)
    expiringDays := (value "CERTIFICATE_EXPIRING_DAYS").getD (.int 30)
    defaultPageSize := (value "CERTIFICATE_DEFAULT_PAGE_SIZE").getD (.int 20)
    maxPageSize := (value "CERTIFICATE_MAX_PAGE_SIZE").getD (.int 100)
    maxFields := value "DATA_UPLOAD_MAX_NUMBER_FIELDS"
    maxBodySize := value "DATA_UPLOAD_MAX_MEMORY_SIZE" }

end Settings

end CertRegistry
