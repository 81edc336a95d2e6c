import ClusterBlueprint.Fault
import ClusterBlueprint.Ordered.Dict
import ClusterBlueprint.Text.Blank
import ClusterBlueprint.Text.Digits
/-!
# Config — the settings of an installation

The settings hold for every claim that one installation compiles. They have
defaults, some of them can be set through environment variables, and
`Config.check` says which combinations are usable.
-/

namespace ClusterBlueprint

/-- The settings. -/
structure Config where
  dbPort : Nat := 5432
  /-- Seconds between two samples of enhanced monitoring; zero turns it off. -/
  monitoringInterval : Nat := 60
  /-- Days that performance data is kept. -/
  insightsRetention : Nat := 7
  /-- Length of a generated password. -/
  passwordLength : Nat := 32
  /-- The value of the `Project` tag. -/
  projectTag : String := "vectordb"
  /-- The policy attached to the monitoring role. -/
  monitoringPolicy : String :=
    "arn:aws:iam::aws:policy/service-role/AmazonRDSEnhancedMonitoringRole"
  /-- Libraries that the database loads at its start. -/
  preloadLibraries : String := "vector"
  /-- Digits of the content hash in a name. -/
  hashLength : Nat := 10
deriving DecidableEq

namespace Config

/-- Whether the settings are usable. -/
def check (c : Config) : Except Fault Unit :=
  if c.dbPort = 0 then .error (.config .zeroPort)
  else if c.monitoringInterval ∉ [0, 1, 5, 10, 15, 30, 60] then
    .error (.config (.interval c.monitoringInterval))
  else if c.passwordLength < 16 ∨ 128 < c.passwordLength then
    .error (.config (.passwordLength c.passwordLength))
  else if c.projectTag = "" then .error (.config .emptyProject)
  else if c.hashLength < 4 ∨ 64 < c.hashLength then .error (.config (.hashLength c.hashLength))
  else .ok ()

/-- A number below `bound` from a variable, or the default if the variable
is not set. Blanks around the number are ignored. -/
def readNumber (env : List (String × String)) (key : String) (bound default : Nat) :
    Except Fault Nat :=
  match Bindings.find? key env with
  | none => .ok default
  | some value =>
    match Text.readUnsigned bound (Text.trim value).toList with
    | some n => .ok n
    | none => .error (.config (.unreadable key value))

/-- A text from a variable, or the default if the variable is not set. -/
def readText (env : List (String × String)) (key default : String) : String :=
  (Bindings.find? key env).getD default

/-- The settings of an environment, checked. -/
def ofEnvironment (env : List (String × String)) : Except Fault Config := do
  let defaults : Config := {}
  let dbPort ← readNumber env "VECTORDB_DB_PORT" (2 ^ 16) defaults.dbPort
  let interval ←
    readNumber env "VECTORDB_MONITORING_INTERVAL" (2 ^ 32) defaults.monitoringInterval
  let insights ←
    readNumber env "VECTORDB_PERFORMANCE_INSIGHTS_RETENTION" (2 ^ 32) defaults.insightsRetention
  let passwords ← readNumber env "VECTORDB_PASSWORD_LENGTH" (2 ^ 64) defaults.passwordLength
  let config : Config :=
    { dbPort := dbPort
      monitoringInterval := interval
      insightsRetention := insights
      passwordLength := passwords
      projectTag := readText env "VECTORDB_PROJECT_TAG" defaults.projectTag
      monitoringPolicy := readText env "VECTORDB_MONITORING_POLICY_ARN" defaults.monitoringPolicy
      preloadLibraries := readText env "VECTORDB_PRELOAD_LIBRARIES" defaults.preloadLibraries
      hashLength := defaults.hashLength }
  config.check
  pure config

end Config

end ClusterBlueprint
