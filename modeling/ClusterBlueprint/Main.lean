import ClusterBlueprint.Report
/-!
# The command line

Reads a claim from standard input and prints its blueprint. Settings come
from the `VECTORDB_*` environment variables, and fresh passwords from the
system's randomness.
-/

namespace ClusterBlueprint

/-- The variables that hold settings. -/
def settingVariables : List String :=
  ["VECTORDB_DB_PORT", "VECTORDB_MONITORING_INTERVAL", "VECTORDB_PERFORMANCE_INSIGHTS_RETENTION",
    "VECTORDB_PASSWORD_LENGTH", "VECTORDB_PROJECT_TAG", "VECTORDB_MONITORING_POLICY_ARN",
    "VECTORDB_PRELOAD_LIBRARIES"]

/-- The words of random bytes. -/
def wordsOfBytes : List UInt8 → List UInt64
  | a :: b :: c :: d :: e :: f :: g :: h :: rest =>
    [b, c, d, e, f, g, h].foldl (fun w x => w <<< 8 ||| x.toUInt64) a.toUInt64
      :: wordsOfBytes rest
  | _ => []

/-- How many random words a run is given. The longest password makes 255
choices, and each word counts for at least half of them, so that this many
fall short only with negligible probability. -/
def suppliedWords : Nat := 4096

end ClusterBlueprint

open ClusterBlueprint in
/-- Runs the command. -/
def main : IO UInt32 := do
  let env ← settingVariables.filterMapM fun key => do
    return (← IO.getEnv key).map fun value => (key, value)
  let input ← (← IO.getStdin).readToEnd
  let random ← IO.getRandomBytes (UInt64.toUSize (UInt64.ofNat (8 * suppliedWords)))
  let (report, _) := Report.run Password.source env input (wordsOfBytes random.toList)
  IO.print report.output
  match report.error with
  | some message => IO.eprintln ("Error: " ++ message)
  | none => pure ()
  return UInt32.ofNat report.exitCode
