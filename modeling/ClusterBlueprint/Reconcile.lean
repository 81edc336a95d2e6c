import ClusterBlueprint.Blueprint
/-!
# Reconcile — compiling again and again

An orchestrator compiles a claim whenever something has changed, and hands
the password of the last blueprint back in the claim, so that the database
keeps it. A run is a sequence of such steps over one source of passwords. A
step that fails leaves the known password as it was.
-/

namespace ClusterBlueprint

/-- One compilation of a run. -/
structure Step where
  claim : Json
  /-- Whether the last known password is written into the claim. -/
  replay : Bool

/-- What is carried from step to step: the last known password and the
state of the password source. -/
structure Session (σ : Type) where
  last : Option String
  source : σ

namespace Step

/-- The claim that a step compiles. -/
def effective (step : Step) (last : Option String) : Json :=
  match step.replay, last with
  | true, some password => step.claim.put "masterPassword" (.text password)
  | _, _ => step.claim

end Step

namespace Session

variable {σ : Type}

/-- The session of a source that nothing was drawn from. -/
def start (source : σ) : Session σ := ⟨none, source⟩

/-- Makes one step. -/
def advance (config : Config) (source : PasswordSource σ) (s : Session σ) (step : Step) :
    Except Stop Blueprint × Session σ :=
  let (result, state) := Blueprint.ofClaim config source (step.effective s.last) s.source
  let last := match result with
    | .ok blueprint => blueprint.connection.masterPassword
    | .error _ => s.last
  (result, ⟨last, state⟩)

/-- Makes the steps of a run, and answers with each result and the session
after it. -/
def run (config : Config) (source : PasswordSource σ) :
    Session σ → List Step → List (Except Stop Blueprint × Session σ)
  | _, [] => []
  | s, step :: rest =>
    let outcome := s.advance config source step
    outcome :: run config source outcome.2 rest

end Session

end ClusterBlueprint
