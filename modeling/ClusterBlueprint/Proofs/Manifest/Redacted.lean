import ClusterBlueprint.Proofs.Graph.Outline
import ClusterBlueprint.Proofs.Manifest.Kinds
/-!
# Manifest — where the password goes

A password stands in a compiled document twice, in the data of its own
secret and in the data of the connection. It goes nowhere else: two
compilations of a spec, each with a password of its own, fail alike, or
give documents that are equal once these two entries are erased
(`ofSpec_confines_password`). The password is drawn into properties, which
are searched for references, so the graphs are compared by their outlines
(`Node.outline`): the secret refers to nothing whatever it holds, so the
outlines are those of one run.
-/

namespace ClusterBlueprint

/-! ## Erasing the password -/

namespace Json

/-- An object without a field. -/
def erase (doc : Json) (key : String) : Json :=
  match doc with
  | object fields => object (fields.filter fun field => field.1 ≠ key)
  | other => other

/-- An object with the value of a field changed. -/
def modify (doc : Json) (key : String) (f : Json → Json) : Json :=
  match doc with
  | object fields => object (fields.map fun (k, value) => (k, if k = key then f value else value))
  | other => other

/-- An array with its items changed. -/
def modifyItems (doc : Json) (f : Json → Json) : Json :=
  match doc with
  | array items => array (items.map f)
  | other => other

/-- A manifest whose data has no entry of a key. -/
def withoutData (manifest : Json) (key : String) : Json :=
  manifest.modify "data" fun data => data.erase key

/-- A manifest without a password: secrets lose the entry that has it. -/
def withoutPassword (manifest : Json) : Json :=
  if manifest.isOf "Secret" then manifest.withoutData "password" else manifest

/-- A document without its password. -/
def redacted (doc : Json) : Json :=
  (doc.modify "resources" fun resources => resources.modifyItems withoutPassword).modify "secret"
    fun secret => secret.withoutData "masterPassword"

/-- The resources of a document have one secret. -/
def HasOneSecret (doc : Json) : Prop :=
  ∃ resources manifest, doc.get? "resources" = some (.array resources) ∧
    resources.filter (isOf "Secret") = [manifest]

end Json

/-- The resource of a draft, given what it depends on. -/
def Node.ofDraft (d : Draft) (dependsOn : TextSet) : Node :=
  ⟨d.id, d.kind, d.name, d.properties, d.details, dependsOn⟩

namespace Graph

/-- What is made of the resources is made of their drafts and their
dependencies. -/
theorem map_nodes_eq {α : Type} (g : Graph) (f : Node → α) :
    g.nodes.map f = List.zipWith (fun make dependsOn => make dependsOn)
      ((g.nodes.map Node.draft).map fun d dependsOn => f (.ofDraft d dependsOn))
      (g.nodes.map Node.dependsOn) := by
  rw [List.map_map, List.zipWith_map, List.zipWith_self]
  rfl

end Graph

namespace Scheme

variable {s : Scheme} {a b : String} {g g' : Graph}

/-! ## Two runs -/

/-- Members are added as their outlines are. -/
theorem addMember_outline (s : Scheme) (a : Assembly) (d : Draft) :
    s.addMember a.outline d.outline = (s.addMember a d).map Assembly.outline := by
  have hname : d.outline.name = d.name := rfl
  rw [addMember, addMember, Assembly.containsName_outline, hname]
  split
  · rfl
  · exact Assembly.add_outline a d

/-- **The outlines of a graph** are those that the outlines of the drafts
are assembled to. -/
theorem assemble_outline (s : Scheme) (n : Names) (password : Option String) :
    (s.assemble n password).map (fun g => g.nodes.map Node.outline) =
      (do
        let ground ← ((s.groundwork n password).map Draft.outline).foldlM Assembly.add .empty
        let whole ← ((s.members n password).map Draft.outline).foldlM s.addMember ground
        whole.finish).map Graph.nodes := by
  have hground := Assembly.foldlM_outline Assembly.add_outline .empty (s.groundwork n password)
  have hempty : Assembly.empty.outline = Assembly.empty := rfl
  rw [hempty] at hground
  rw [assemble, hground]
  cases (s.groundwork n password).foldlM Assembly.add .empty with
  | error cause => rfl
  | ok ground =>
    have hmembers := Assembly.foldlM_outline s.addMember_outline ground (s.members n password)
    simp only [Except.map, Fallible.ok_bind, hmembers]
    cases (s.members n password).foldlM s.addMember ground with
    | error cause => rfl
    | ok whole => exact (Assembly.finish_outline whole).symm

/-- A draft has one outline with every password. -/
theorem outline_drawn (s : Scheme) (a b : String) (p : Part) :
    (s.drawn (some a) p).outline = (s.drawn (some b) p).outline := by
  have hreferences : (s.drawn (some a) p).properties.references =
      (s.drawn (some b) p).properties.references := by
    rw [references_drawn, references_drawn]
    cases p <;> rfl
  simp only [Draft.outline, Json.outline, hreferences]
  cases p <;> rfl

/-- **Graphs with different passwords have one outline.** -/
theorem assemble_outline_eq (s : Scheme) (a b : String) :
    (s.assemble s.names (some a)).map (fun g => g.nodes.map Node.outline) =
      (s.assemble s.names (some b)).map fun g => g.nodes.map Node.outline := by
  have hground : (s.groundwork s.names (some a)).map Draft.outline =
      (s.groundwork s.names (some b)).map Draft.outline := by
    have hparts : s.ground (some a) = s.ground (some b) := rfl
    rw [groundwork_eq, groundwork_eq, hparts, List.map_map, List.map_map]
    exact List.map_congr_left fun p _ => s.outline_drawn a b p
  have hmembers : s.members s.names (some a) = s.members s.names (some b) := rfl
  rw [assemble_outline, assemble_outline, hground, hmembers]

/-! ## Two documents -/

/-- A resource other than the secret has nothing of the password, and the
secret has nothing else. -/
theorem withoutPassword_drawn (s : Scheme) (r : Rendering) (a b : String) (p : Part)
    (dependsOn : TextSet) :
    (r.node (.ofDraft (s.drawn (some a) p) dependsOn)).withoutPassword =
      (r.node (.ofDraft (s.drawn (some b) p) dependsOn)).withoutPassword := by
  cases p <;> rfl

/-- **The manifests of two graphs are equal without the password.** -/
theorem withoutPassword_graph (hg : g.nodes.map Node.draft = s.drafts (some a))
    (hg' : g'.nodes.map Node.draft = s.drafts (some b))
    (hdepends : g.nodes.map Node.dependsOn = g'.nodes.map Node.dependsOn) (r : Rendering) :
    (r.graph g).map Json.withoutPassword = (r.graph g').map Json.withoutPassword := by
  have hdrafts : ∀ make : Draft → TextSet → Json,
      (∀ p dependsOn, make (s.drawn (some a) p) dependsOn = make (s.drawn (some b) p) dependsOn) →
      (s.drafts (some a)).map make = (s.drafts (some b)).map make := by
    intro make hmake
    have hparts : s.ground (some a) = s.ground (some b) := rfl
    have hmembers : s.memberDrafts (some a) = s.memberDrafts (some b) := rfl
    rw [drafts, drafts, List.map_append, List.map_append, hparts, hmembers, List.map_map,
      List.map_map]
    exact congrArg (· ++ _) (List.map_congr_left fun p _ => funext (hmake p))
  rw [Rendering.graph, Rendering.graph, List.map_map, List.map_map, Graph.map_nodes_eq g,
    Graph.map_nodes_eq g', hdepends, hg, hg', hdrafts _ (s.withoutPassword_drawn r a b)]

/-- The connection loses its password, whatever that is. -/
theorem withoutData_connection (s : Scheme) (r : Rendering) (password : Option String) :
    (r.connection (s.connection password)).withoutData "masterPassword" =
      (r.connection (s.connection none)).withoutData "masterPassword" := by
  simp [Rendering.connection, Connection.manifestWith, Connection.encodedData, Connection.entries,
    Connection.secretName, connection, Json.withoutData, Json.modify, Json.erase]

/-- **The documents of two graphs are equal without the password.** -/
theorem redacted_eq (hg : g.nodes.map Node.draft = s.drafts (some a))
    (hg' : g'.nodes.map Node.draft = s.drafts (some b))
    (hdepends : g.nodes.map Node.dependsOn = g'.nodes.map Node.dependsOn) :
    ((s.carrying a).blueprintOf (some a) g).toJson.redacted =
      ((s.carrying b).blueprintOf (some b) g').toJson.redacted := by
  have hdocument : ∀ c h, ((s.carrying c).blueprintOf (some c) h).toJson.redacted = .object
      [("resources",
          .array ((s.rendering.graph h).map Json.withoutPassword)),
        ("secret", (s.rendering.connection (s.connection (some c))).withoutData "masterPassword"),
        ("subnets", .array (s.plan.allocations.map Allocation.toJson)),
        ("zones", .texts s.zones.zones)] := fun _ _ => rfl
  rw [hdocument, hdocument, withoutPassword_graph hg hg' hdepends,
    withoutData_connection s _ (some a), withoutData_connection s _ (some b)]

/-! ## Compilations -/

/-- **Specs with passwords that pass are planned alike.** -/
theorem of_password (config : Config) (spec : Spec) (ha : Rules.checkPassword a = .ok ())
    (hb : Rules.checkPassword b = .ok ()) :
    (∃ cause, Scheme.of config { spec with masterPassword := some a } = .error cause ∧
        Scheme.of config { spec with masterPassword := some b } = .error cause) ∨
      ∃ s : Scheme, Scheme.of config { spec with masterPassword := some a } = .ok (s.carrying a) ∧
        Scheme.of config { spec with masterPassword := some b } = .ok (s.carrying b) := by
  have hrule : Spec.passwordRule (some a) = Spec.passwordRule (some b) := ha.trans hb.symm
  have hcheck : ({ spec with masterPassword := some b } : Spec).check =
      ({ spec with masterPassword := some a } : Spec).check := by
    simp only [Spec.check_eq_applyAll, Spec.rules, hrule]
  rcases of_alike config hcheck rfl rfl with hfault | ⟨letters, h, h'⟩
  · exact Or.inl hfault
  · exact Or.inr ⟨planned config spec letters, h, h'⟩

/-- The secret of a drawn graph is the only one. -/
theorem hasOneSecret (hg : g.nodes.map Node.draft = s.drafts (some a)) :
    (s.blueprintOf (some a) g).toJson.HasOneSecret := by
  obtain ⟨n, hn, hdraft⟩ := exists_node hg (Or.inl (Extent.mem_parts.2 rfl :
    .secret ∈ s.ground (some a)))
  exact ⟨_, _, rfl, filter_isOf_eq_singleton hg _ rfl hn hdraft⟩

end Scheme

namespace Blueprint

variable {σ τ : Type} {p q : String}

/-- **The password goes nowhere else.** Two compilations of a spec with
passwords that pass end with one fault, or with documents that are equal
once the password is erased. -/
theorem ofSpec_confines_password (config : Config) (spec : Spec)
    (hp : Rules.checkPassword p = .ok ()) (hq : Rules.checkPassword q = .ok ())
    (source : PasswordSource σ) (source' : PasswordSource τ) (state : σ) (state' : τ) :
    (∃ stop, ofSpec config source { spec with masterPassword := some p } state =
          (.error stop, state) ∧
        ofSpec config source' { spec with masterPassword := some q } state' =
          (.error stop, state')) ∨
      ∃ b b' : Blueprint,
        ofSpec config source { spec with masterPassword := some p } state = (.ok b, state) ∧
        ofSpec config source' { spec with masterPassword := some q } state' = (.ok b', state') ∧
        b.toJson.HasOneSecret ∧ b'.toJson.HasOneSecret ∧
        b.toJson.redacted = b'.toJson.redacted := by
  rcases Scheme.of_password config spec hp hq with ⟨cause, herror, herror'⟩ | ⟨s, hof, hof'⟩
  · exact Or.inl ⟨_, ofSpec_of_error herror source state, ofSpec_of_error herror' source' state'⟩
  have hs := (Scheme.sound_of hof).1
  have hs' := (Scheme.sound_of hof').1
  have houtline := s.assemble_outline_eq p q
  have hcarrying : ∀ a, (s.carrying a).assemble (s.carrying a).names (some a) =
      s.assemble s.names (some a) := fun _ => rfl
  rw [ofSpec_eq hof, ofSpec_eq hof', Scheme.password_of_carried rfl, Scheme.password_of_carried rfl,
    Scheme.blueprint_eq hs, Scheme.blueprint_eq hs', hcarrying, hcarrying]
  rcases Fallible.map_eq_map_iff.1 houtline with ⟨cause, hg, hg'⟩ | ⟨g, g', hg, hg', houtlines⟩
  · rw [hg, hg']
    exact Or.inl ⟨_, rfl, rfl⟩
  have hdrafts := Scheme.draft_of_assemble hg
  have hdrafts' := Scheme.draft_of_assemble hg'
  have hdepends : g.nodes.map Node.dependsOn = g'.nodes.map Node.dependsOn := by
    have h := congrArg (List.map Node.dependsOn) houtlines
    rwa [List.map_map, List.map_map] at h
  rw [hg, hg']
  exact Or.inr ⟨_, _, rfl, rfl, Scheme.hasOneSecret hdrafts, Scheme.hasOneSecret hdrafts',
    Scheme.redacted_eq hdrafts hdrafts' hdepends⟩

/-- The spec of the defaults compiles with two passwords to documents that
differ in the passwords at most. -/
theorem ofSpec_confines_password_ofRegion :
    let spec := Spec.ofRegion "us-west-2"
    let source := PasswordSource.constant ""
    ∃ b b' : Blueprint,
      (ofSpec {} source { spec with masterPassword := some "correct-horse-battery" } ()).1 = .ok b ∧
      (ofSpec {} source { spec with masterPassword := some "less-correct-horse" } ()).1 = .ok b' ∧
      b.toJson.HasOneSecret ∧ b'.toJson.HasOneSecret ∧
      b.toJson.redacted = b'.toJson.redacted := by
  intro spec source
  have hp : Rules.checkPassword "correct-horse-battery" = .ok () :=
    Fallible.toOption_eq_some_iff.1 (by decide +kernel)
  have hq : Rules.checkPassword "less-correct-horse" = .ok () :=
    Fallible.toOption_eq_some_iff.1 (by decide +kernel)
  have hcheck :
      ({ spec with masterPassword := some "correct-horse-battery" } : Spec).check = .ok () :=
    Spec.check_password (Spec.check_ofRegion (by decide)) hp
  have hletters : Region.letters? "us-west-2" = some ['a', 'b', 'c', 'd'] := by decide +kernel
  obtain ⟨b, hb⟩ : ∃ b, (ofSpec {} source
      { spec with masterPassword := some "correct-horse-battery" } ()).1 = .ok b :=
    exists_ofSpec_of_unnamed rfl hcheck hletters (by decide) rfl source ()
  rcases ofSpec_confines_password {} spec hp hq source source () () with
    ⟨stop, hstop, -⟩ | ⟨c, c', hc, hc', hone, hone', hredacted⟩
  · rw [hstop] at hb
    cases hb
  · exact ⟨c, c', congrArg Prod.fst hc, congrArg Prod.fst hc', hone, hone', hredacted⟩

end Blueprint

end ClusterBlueprint
