import ClusterBlueprint.Proofs.Blueprint.Growth
import ClusterBlueprint.Proofs.Manifest.Redacted
/-!
# Blueprint — tags decide nothing

Two specs that differ in the caller's tags alone, and pass, are compiled
alike: both end with one fault, or their graphs are equal once the tags of
every resource are erased (`ofSpec_tags_inert`). A tag may have a key that
ends in `Ref` and a value that is the name of a resource. That makes no
reference: references are objects, a tag is a text, and the field that the
tags stand in has a key of its own. So the drafts have the same outlines,
and nothing else of the tags is ever looked at.
-/

namespace ClusterBlueprint

/-- A resource without its tags. -/
def Node.withoutTags (n : Node) : Node := { n with properties := n.properties.erase "tags" }

/-- A draft without its tags. -/
def Draft.withoutTags (d : Draft) : Draft := { d with properties := d.properties.erase "tags" }

namespace Scheme

variable {s : Scheme} {tags : Dict String} {password : Option String} {g g' : Graph}

/-- The scheme with the tags of another caller. -/
def tagged (s : Scheme) (tags : Dict String) : Scheme :=
  { s with spec := { s.spec with tags := tags } }

/-! ## Drafts -/

/-- Names are made without tags. -/
theorem names_tagged (s : Scheme) (tags : Dict String) : (s.tagged tags).names = s.names := rfl

/-- **A part is drawn the same up to its tags.** -/
theorem withoutTags_drawn (s : Scheme) (tags : Dict String) (password : Option String) (p : Part) :
    ((s.tagged tags).drawn password p).withoutTags = (s.drawn password p).withoutTags := by
  cases p with
  | cluster => cases password <;> rfl
  | _ => rfl

/-- So is a member. -/
theorem withoutTags_member (s : Scheme) (tags : Dict String) (index : Nat) :
    ((s.tagged tags).member index).withoutTags = (s.member index).withoutTags := by
  have hmonitored : (s.tagged tags).isMonitored = s.isMonitored := rfl
  simp only [member, clusterInstance, monitoringFields, hmonitored]
  cases s.isMonitored <;> rfl

/-- **All drafts are the same up to their tags.** -/
theorem withoutTags_drafts (s : Scheme) (tags : Dict String) (password : Option String) :
    ((s.tagged tags).drafts password).map Draft.withoutTags =
      (s.drafts password).map Draft.withoutTags := by
  have hground : (s.tagged tags).ground password = s.ground password := rfl
  have hcount : (s.tagged tags).spec.instanceCount = s.spec.instanceCount := rfl
  simp only [drafts, memberDrafts, hground, hcount, List.map_append, List.map_cons, List.map_map]
  refine congrArg₂ _ (List.map_congr_left fun p _ => s.withoutTags_drawn tags password p)
    (congrArg₂ _ (s.withoutTags_drawn tags password .cluster) ?_)
  exact List.map_congr_left fun i _ => s.withoutTags_member tags i

/-! ## Outlines -/

/-- **A part refers to the same names whatever the tags say.** -/
theorem outline_drawn_tagged (s : Scheme) (tags : Dict String) (password : Option String)
    (p : Part) :
    ((s.tagged tags).drawn password p).outline = (s.drawn password p).outline := by
  have hreferences : ((s.tagged tags).drawn password p).properties.references =
      (s.drawn password p).properties.references := by
    rw [references_drawn, references_drawn]
    cases p <;> rfl
  simp only [Draft.outline, Json.outline, hreferences]
  cases p <;> rfl

/-- So does a member. -/
theorem outline_member_tagged (s : Scheme) (tags : Dict String) (index : Nat) :
    ((s.tagged tags).member index).outline = (s.member index).outline := by
  have hreferences : ((s.tagged tags).member index).properties.references =
      (s.member index).properties.references := by
    rw [member, member, references_clusterInstance, references_clusterInstance]
    rfl
  simp only [Draft.outline, Json.outline, hreferences]
  rfl

/-- **Graphs with different tags have one outline.** -/
theorem assemble_outline_tagged (s : Scheme) (tags : Dict String) (password : Option String) :
    ((s.tagged tags).assemble s.names password).map (fun g => g.nodes.map Node.outline) =
      (s.assemble s.names password).map fun g => g.nodes.map Node.outline := by
  have hground : ((s.tagged tags).groundwork s.names password).map Draft.outline =
      (s.groundwork s.names password).map Draft.outline := by
    have hparts : (s.tagged tags).ground password = s.ground password := rfl
    rw [← names_tagged s tags, groundwork_eq, names_tagged, groundwork_eq, hparts, List.map_map,
      List.map_map]
    exact List.map_congr_left fun p _ => outline_drawn_tagged s tags password p
  have hmembers : ((s.tagged tags).members s.names password).map Draft.outline =
      (s.members s.names password).map Draft.outline := by
    have hcount : (s.tagged tags).spec.instanceCount = s.spec.instanceCount := rfl
    rw [← names_tagged s tags, members_eq, names_tagged, members_eq, memberDrafts, memberDrafts,
      hcount, List.map_cons, List.map_cons, List.map_map, List.map_map,
      outline_drawn_tagged s tags password]
    exact congrArg _ (List.map_congr_left fun i _ => s.outline_member_tagged tags i)
  have hadd : (s.tagged tags).addMember = s.addMember := rfl
  rw [assemble_outline, assemble_outline, hground, hmembers, hadd]

/-! ## Graphs -/

/-- **Drafts and dependencies that agree make graphs that agree** up to
their tags. -/
theorem withoutTags_nodes (hg : g.nodes.map Node.draft = (s.tagged tags).drafts password)
    (hg' : g'.nodes.map Node.draft = s.drafts password)
    (hdepends : g.nodes.map Node.dependsOn = g'.nodes.map Node.dependsOn) :
    g.nodes.map Node.withoutTags = g'.nodes.map Node.withoutTags := by
  have hmake : ∀ d : Draft, (fun dependsOn => (Node.ofDraft d dependsOn).withoutTags) =
      Node.ofDraft d.withoutTags := fun _ => rfl
  have hmap : ∀ ds : List Draft,
      ds.map (fun d dependsOn => (Node.ofDraft d dependsOn).withoutTags) =
        (ds.map Draft.withoutTags).map Node.ofDraft := fun ds => by
    rw [List.map_map]
    exact List.map_congr_left fun d _ => hmake d
  rw [Graph.map_nodes_eq g, Graph.map_nodes_eq g', hdepends, hg, hg', hmap, hmap,
    withoutTags_drafts]

/-- **Specs that differ in their tags are planned alike**, when both pass. -/
theorem of_tags (config : Config) {spec : Spec} {tags : Dict String}
    (hcheck : spec.check = .ok ()) (hcheck' : ({ spec with tags := tags } : Spec).check = .ok ()) :
    (∃ cause, Scheme.of config spec = .error cause ∧
        Scheme.of config { spec with tags := tags } = .error cause) ∨
      ∃ s : Scheme, Scheme.of config spec = .ok s ∧
        Scheme.of config { spec with tags := tags } = .ok (s.tagged tags) := by
  rcases of_alike config (hcheck'.trans hcheck.symm) rfl rfl with hfault | ⟨letters, h, h'⟩
  · exact Or.inl hfault
  · exact Or.inr ⟨planned config spec letters, h, h'⟩

end Scheme

namespace Blueprint

variable {σ τ : Type}

/-- **Tags decide nothing.** Two specs that pass, differ in the caller's
tags alone and want no fresh password end with one fault, or with graphs
that are equal once the tags of every resource are erased, and with one
connection. -/
theorem ofSpec_tags_inert (config : Config) {spec spec' : Spec}
    (hrest : spec' = { spec with tags := spec'.tags }) (hcheck : spec.check = .ok ())
    (hcheck' : spec'.check = .ok ())
    (hpassword : spec.masterPassword = none → spec.generatePassword = false)
    (source : PasswordSource σ) (source' : PasswordSource τ) (state : σ) (state' : τ) :
    (∃ stop, (ofSpec config source spec state).1 = .error stop ∧
        (ofSpec config source' spec' state').1 = .error stop) ∨
      ∃ b b' : Blueprint, (ofSpec config source spec state).1 = .ok b ∧
        (ofSpec config source' spec' state').1 = .ok b' ∧
        b.graph.nodes.map Node.withoutTags = b'.graph.nodes.map Node.withoutTags ∧
        b.connection = b'.connection := by
  generalize spec'.tags = tags at hrest
  subst hrest
  rcases Scheme.of_tags config hcheck hcheck' with ⟨cause, herror, herror'⟩ | ⟨s, hof, hof'⟩
  · rw [ofSpec_of_error herror, ofSpec_of_error herror']
    exact Or.inl ⟨_, rfl, rfl⟩
  obtain ⟨hs, rfl, -⟩ := Scheme.sound_of hof
  have hs' := (Scheme.sound_of hof').1
  have hpassword' : (s.tagged tags).spec.masterPassword = none →
      (s.tagged tags).spec.generatePassword = false := hpassword
  have hcarried : (s.tagged tags).spec.masterPassword = s.spec.masterPassword := rfl
  have houtline := s.assemble_outline_tagged tags s.spec.masterPassword
  rw [ofSpec_eq hof, ofSpec_eq hof', Scheme.password_of_settled hpassword,
    Scheme.password_of_settled hpassword', Scheme.blueprint_eq hs, Scheme.blueprint_eq hs',
    hcarried, s.names_tagged tags]
  rcases Fallible.map_eq_map_iff.1 houtline with ⟨cause, hg', hg⟩ | ⟨g', g, hg', hg, houtlines⟩
  · rw [hg, hg']
    exact Or.inl ⟨_, rfl, rfl⟩
  have hdepends : g.nodes.map Node.dependsOn = g'.nodes.map Node.dependsOn := by
    have h := congrArg (List.map Node.dependsOn) houtlines
    rw [List.map_map, List.map_map] at h
    exact h.symm
  rw [hg, hg']
  refine Or.inr ⟨_, _, rfl, rfl, ?_, rfl⟩
  exact (Scheme.withoutTags_nodes (Scheme.draft_of_assemble hg') (Scheme.draft_of_assemble hg)
    hdepends.symm).symm

/-- A tag that looks like a reference to the network makes none: the spec
of the defaults compiles with it and without, to graphs that differ in
their tags at most. -/
theorem ofSpec_tags_inert_vpcIdRef :
    let spec := { Spec.ofRegion "us-west-2" with generatePassword := false }
    let spec' := { spec with tags := Dict.ofList [("vpcIdRef", "vectordb-vpc-dev")] }
    let source := PasswordSource.constant ""
    ∃ b b' : Blueprint, (ofSpec {} source spec ()).1 = .ok b ∧
      (ofSpec {} source spec' ()).1 = .ok b' ∧
      b.graph.nodes.map Node.withoutTags = b'.graph.nodes.map Node.withoutTags ∧
      b.connection = b'.connection := by
  intro spec spec' source
  have hcheck : spec.check = .ok () := Fallible.toOption_eq_some_iff.1 (by decide +kernel)
  have hcheck' : spec'.check = .ok () := Fallible.toOption_eq_some_iff.1 (by decide +kernel)
  have hletters : Region.letters? "us-west-2" = some ['a', 'b', 'c', 'd'] := by decide +kernel
  obtain ⟨b, hb⟩ : ∃ b, (ofSpec {} source spec ()).1 = .ok b :=
    exists_ofSpec_of_unnamed rfl hcheck hletters (by decide) rfl source ()
  have hrest : spec' = { spec with tags := spec'.tags } := rfl
  rcases ofSpec_tags_inert {} hrest hcheck hcheck' (fun _ => rfl) source source () () with
    ⟨stop, hstop, -⟩ | hinert
  · rw [hstop] at hb
    cases hb
  · exact hinert

end Blueprint

end ClusterBlueprint
