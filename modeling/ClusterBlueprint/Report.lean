import ClusterBlueprint.Blueprint
import ClusterBlueprint.Yaml.Reader
/-!
# Report — one run of the command line

A run reads the settings from the environment and a claim from its input
and prints the blueprint. A claim may be given as a whole object with the
claim proper under `spec`. The settings are judged first, then whether the
input can be read, then the claim.
-/

namespace ClusterBlueprint

/-- What a run leaves behind: its status, its output, and the error it
ends with. -/
structure Report where
  exitCode : Nat
  output : String
  error : Option String
deriving DecidableEq

namespace Stop

/-- The text of the error. -/
def message : Stop → String
  | .fault cause => cause.message
  | .splitName => "A name cannot be cut inside a character"

end Stop

namespace Report

/-- The report of a run that failed. -/
def failure (message : String) : Report := ⟨1, "", some message⟩

/-- A text with each of its lines moved in by four blanks. -/
def indentLines (s : String) : String :=
  String.ofList ("    ".toList ++ s.toList.flatMap fun c =>
    if c = '\n' then "\n    ".toList else [c])

/-- The claim in an input document: what stands under `spec`, if the
document is an object that has it. -/
def claimOf (input : Json) : Json := (input.get? "spec").getD input

/-- Runs on an input under an environment. -/
def run {σ : Type} (source : PasswordSource σ) (env : List (String × String)) (input : String)
    (state : σ) : Report × σ :=
  match Config.ofEnvironment env with
  | .error cause =>
    (failure ("Invalid engine configuration\n\nCaused by:\n" ++ indentLines cause.message), state)
  | .ok config =>
    match Yaml.read input with
    | none => (failure "Claim is neither valid YAML nor JSON", state)
    | some document =>
      match Blueprint.ofClaim config source (claimOf document) state with
      | (.ok blueprint, state) => (⟨0, blueprint.toJson.indented ++ "\n", none⟩, state)
      | (.error stop, state) => (failure stop.message, state)

end Report

end ClusterBlueprint
