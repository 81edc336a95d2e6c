import ClusterBlueprint.Proofs.Blueprint.Kinds
/-!
# Blueprint — tags

Resources that the provider keeps tags on carry four tags of their own with
the caller's written over them (`Scheme.get?_tagsOf`); the others carry none.
A subnet is the exception: the tag that names its tier is written last, over
what the caller says. So what the caller says stands everywhere, except
where it is about a tag called `Tier` (`callerTagsWin_iff`).
-/

namespace ClusterBlueprint

namespace Json

/-- A dictionary is read as a document. -/
theorem get?_ofDict (d : Dict String) (key : String) :
    (ofDict d).get? key = (d.get? key).map text :=
  Bindings.find?_map text key d.bindings

end Json

namespace Spec

/-- The tags that a resource has where the caller gives no others. -/
def coreTags (spec : Spec) (config : Config) (n : Node) : List (String × String) :=
  [("Component", n.kind.component), ("Environment", spec.environmentSuffix), ("Name", n.name),
    ("Project", config.projectTag)]

end Spec

namespace Node

/-- The tags of a resource that carries some. -/
structure IsTagged (n : Node) (spec : Spec) (config : Config) (tags : Dict String) : Prop where
  property : n.property? "tags" = some (.ofDict tags)
  caller : ∀ key value, spec.tags.get? key = some value → (n.kind = .subnet → key ≠ "Tier") →
    tags.get? key = some value
  core : ∀ key, spec.tags.get? key = none → (n.kind = .subnet → key ≠ "Tier") →
    tags.get? key = Bindings.find? key (spec.coreTags config n)
  /-- A subnet names its tier, whatever the caller says. -/
  tier : n.kind = .subnet → ∃ tier ∈ spec.tiers, ∃ index,
    n.id = "subnet-" ++ SubnetNames.place tier index ∧ tags.get? "Tier" = some tier.text

end Node

namespace Blueprint

/-- What the caller says of a tag stands on every resource with tags. -/
def CallerTagsWin (b : Blueprint) : Prop :=
  ∀ n ∈ b.graph.nodes, n.kind.isTaggable = true → ∃ tags, n.property? "tags" = some tags ∧
    ∀ key value, b.spec.tags.get? key = some value → tags.get? key = some (.text value)

end Blueprint

namespace Scheme

variable {s : Scheme} {password : Option String} {g : Graph} {n : Node} {tier : Tier} {index : Nat}

/-- **The tags of a resource are the caller's over the core ones.** -/
theorem get?_tagsOf (s : Scheme) (n : Node) (key : String) :
    (s.namer.tagsOf n.kind n.name).get? key =
      (s.spec.tags.get? key).or (Bindings.find? key (s.spec.coreTags s.config n)) := by
  have hcore : (s.namer.coreTags n.kind n.name).bindings = s.spec.coreTags s.config n := rfl
  rw [Namer.tagsOf, Dict.get?_merge, Dict.get?, Dict.get?, hcore]
  rfl

/-- The tags of a subnet. -/
theorem tags_of_subnet (hn : n.draft = s.drawn password (.subnet tier index)) :
    n.property? "tags" =
      some (.ofDict ((s.namer.tagsOf n.kind n.name).insert "Tier" tier.text)) := by
  have hkind : n.kind = .subnet := kind_of_drawn hn
  have hname : n.name = s.nameOf (.subnet tier index) := congrArg Draft.name hn
  rw [property?_of_draft hn, hkind, hname]
  rfl

/-- The tags of everything else. -/
theorem tags_of_ne_subnet (hg : g.nodes.map Node.draft = s.drafts password) (hn : n ∈ g.nodes)
    (hkind : n.kind ≠ .subnet) :
    n.property? "tags" =
      if n.kind.isTaggable then some (.ofDict (s.namer.tagsOf n.kind n.name)) else none := by
  rcases draft_cases hg hn with ⟨p, -, hdraft⟩ | ⟨i, -, hdraft⟩
  · have hpkind : n.kind = p.kind := kind_of_drawn hdraft
    have hname : n.name = (s.drawn password p).name := congrArg Draft.name hdraft
    rw [property?_of_draft hdraft, hname, hpkind]
    cases p with
    | subnet => exact absurd hpkind hkind
    | cluster => cases password <;> rfl
    | _ => rfl
  · have hmkind : n.kind = .clusterInstance := kind_of_member hdraft
    have hname : n.name = (s.member i).name := congrArg Draft.name hdraft
    rw [property?_of_draft hdraft, hname, hmkind, member, clusterInstance, monitoringFields]
    cases s.isMonitored <;> rfl

/-- **Every resource with tags is tagged.** -/
theorem exists_isTagged (hg : g.nodes.map Node.draft = s.drafts password) (hn : n ∈ g.nodes)
    (htaggable : n.kind.isTaggable = true) : ∃ tags, n.IsTagged s.spec s.config tags := by
  by_cases hkind : n.kind = .subnet
  · obtain ⟨tier, index, htier, -, hdraft⟩ := exists_place hg (Graph.mem_ofKind.2 ⟨hn, hkind⟩)
    refine ⟨_, tags_of_subnet hdraft, fun key value hvalue hkey => ?_, fun key hnone hkey => ?_,
      fun _ => ⟨tier, htier, index, id_of_drawn hdraft, ?_⟩⟩
    · rw [Dict.get?_insert, if_neg (hkey hkind), get?_tagsOf, hvalue]
      rfl
    · rw [Dict.get?_insert, if_neg (hkey hkind), get?_tagsOf, hnone]
      rfl
    · rw [Dict.get?_insert, if_pos rfl]
  · have htags := tags_of_ne_subnet hg hn hkind
    rw [if_pos htaggable] at htags
    refine ⟨_, htags, fun key value hvalue _ => ?_, fun key hnone _ => ?_,
      fun hsubnet => absurd hsubnet hkind⟩
    · rw [get?_tagsOf, hvalue]
      rfl
    · rw [get?_tagsOf, hnone]
      rfl

/-- And the others carry no tags. -/
theorem tags_of_not_isTaggable (hg : g.nodes.map Node.draft = s.drafts password) (hn : n ∈ g.nodes)
    (htaggable : n.kind.isTaggable = false) : n.property? "tags" = none := by
  have hkind : n.kind ≠ .subnet := by
    intro hkind
    rw [hkind] at htaggable
    cases htaggable
  rw [tags_of_ne_subnet hg hn hkind, htaggable]
  rfl

/-- **The caller's tags win** exactly where the caller has no tag called
`Tier`, or one that says of every tier what it is. -/
theorem callerTagsWin_iff (hs : s.spec.Checked) (hg : g.nodes.map Node.draft = s.drafts password) :
    (s.blueprintOf password g).CallerTagsWin ↔
      ∀ value, s.spec.tags.get? "Tier" = some value → ∀ tier ∈ s.spec.tiers, tier.text = value := by
  constructor
  · intro hwin value hvalue tier htier
    obtain ⟨n, hn, hdraft⟩ := exists_node hg (p := .subnet tier 0)
      (Or.inl (Extent.mem_parts.2 ⟨htier, hs.zoneCount.1⟩))
    have htaggable : n.kind.isTaggable = true := by
      rw [kind_of_drawn hdraft]
      rfl
    obtain ⟨tags, htags, hall⟩ := hwin n hn htaggable
    rw [tags_of_subnet hdraft] at htags
    cases htags
    have htext := hall "Tier" value hvalue
    rw [Json.get?_ofDict, Dict.get?_insert, if_pos rfl] at htext
    simpa using htext
  · intro hall n hn htaggable
    obtain ⟨tags, htags⟩ := exists_isTagged hg hn htaggable
    refine ⟨_, htags.property, fun key value hvalue => ?_⟩
    rw [Json.get?_ofDict]
    by_cases htier : n.kind = .subnet ∧ key = "Tier"
    · obtain ⟨hkind, rfl⟩ := htier
      obtain ⟨tier, hmem, _, -, htext⟩ := htags.tier hkind
      rw [htext, hall value hvalue tier hmem]
      rfl
    · rw [htags.caller key value hvalue fun hkind hkey => htier ⟨hkind, hkey⟩]
      rfl

end Scheme

namespace Blueprint

variable {σ : Type} {config : Config} {source : PasswordSource σ} {claim : Json} {state : σ}
  {b : Blueprint}

/-- **The tags of a compiled claim.** -/
theorem ofClaim_tags (h : (ofClaim config source claim state).1 = .ok b) :
    Spec.ofClaim claim = .ok b.spec ∧ ∀ n ∈ b.graph.nodes,
      (n.kind.isTaggable = true → ∃ tags, n.IsTagged b.spec config tags) ∧
      (n.kind.isTaggable = false → n.property? "tags" = none) := by
  obtain ⟨spec, -, hspec, -⟩ := exists_scheme h
  obtain ⟨s, password, g, -, rfl, rfl, hg, rfl⟩ := exists_drawn hspec h
  exact ⟨hspec, fun n hn => ⟨Scheme.exists_isTagged hg hn, Scheme.tags_of_not_isTaggable hg hn⟩⟩

/-- A caller's environment is the one on every tag. -/
theorem ofClaim_tags_environment :
    let claim := Json.object
      [("region", .text "us-west-2"), ("tags", .object [("Environment", .text "blue")])]
    let source := PasswordSource.constant "correct-horse-battery"
    ∃ b : Blueprint, (ofClaim {} source claim ()).1 = .ok b ∧ ∀ n ∈ b.graph.nodes,
      n.kind.isTaggable = true → ∃ tags : Dict String, n.property? "tags" = some (.ofDict tags) ∧
        tags.get? "Environment" = some "blue" ∧ tags.get? "Project" = some "vectordb" := by
  intro claim source
  let spec : Spec :=
    { Spec.ofRegion "us-west-2" with tags := Dict.ofList [("Environment", "blue")] }
  have hspec : Spec.ofClaim claim = .ok spec := Fallible.toOption_eq_some_iff.1 (by decide +kernel)
  obtain ⟨b, hb⟩ := exists_ofClaim_west hspec rfl rfl source ()
  obtain ⟨hread, hall⟩ := ofClaim_tags hb
  have hspecEq : spec = b.spec := Except.ok.inj (hspec.symm.trans hread)
  refine ⟨b, hb, fun n hn htaggable => ?_⟩
  obtain ⟨tags, htags⟩ := (hall n hn).1 htaggable
  rw [← hspecEq] at htags
  exact ⟨tags, htags.property, htags.caller "Environment" "blue" rfl fun _ => by decide,
    htags.core "Project" rfl fun _ => by decide⟩

/-- **A caller's tier is lost on subnets**: a tag called `Tier` that says
`gold` gives way to the tier's own name. -/
theorem subnetTier_overwrites_caller :
    let claim := Json.object
      [("region", .text "us-west-2"), ("tags", .object [("Tier", .text "gold")])]
    let source := PasswordSource.constant "correct-horse-battery"
    ∃ b : Blueprint, (ofClaim {} source claim ()).1 = .ok b ∧
      b.spec.tags.get? "Tier" = some "gold" ∧ ¬ b.CallerTagsWin := by
  intro claim source
  let spec : Spec := { Spec.ofRegion "us-west-2" with tags := Dict.ofList [("Tier", "gold")] }
  have hspec : Spec.ofClaim claim = .ok spec := Fallible.toOption_eq_some_iff.1 (by decide +kernel)
  obtain ⟨b, hb⟩ := exists_ofClaim_west hspec rfl rfl source ()
  obtain ⟨s, password, g, hs, hsspec, -, hg, rfl⟩ := exists_drawn hspec hb
  have htier : s.spec.tags.get? "Tier" = some "gold" := by
    rw [hsspec]
    rfl
  refine ⟨_, hb, htier, fun hwin => ?_⟩
  have htext := (Scheme.callerTagsWin_iff hs.spec hg).1 hwin "gold" htier .database hs.spec.database
  exact absurd htext (by decide)

end Blueprint

end ClusterBlueprint
