import ClusterBlueprint.Proofs.Blueprint.Outcome
import ClusterBlueprint.Proofs.Graph.Extension
/-!
# Blueprint — scaling out

A spec grows when it asks for more zones, tiers or members and for nothing
else (`Spec.Grows`). What it already had stays as it was, to the last field
(`ofSpec_grows`): a block, a zone and a name depend on the place of a
subnet and on no count, so the drafts of the parts are the same ones
(`drawn_of_grows`), and they are found again in their order. Only the
subnet group changes, since it lists the subnets of the database tier, and
its list grows at the end.
-/

namespace ClusterBlueprint

namespace Spec

/-- A spec that asks for at least as much as another, and is equal to it
otherwise. -/
structure Grows (spec spec' : Spec) : Prop where
  zones : spec.zoneCount ≤ spec'.zoneCount
  tiers : spec.tiers ⊆ spec'.tiers
  members : spec.instanceCount ≤ spec'.instanceCount
  rest : spec' = { spec with
    zoneCount := spec'.zoneCount, tiers := spec'.tiers, instanceCount := spec'.instanceCount }

end Spec

namespace Scheme

variable {config : Config} {spec spec' : Spec} {s s' : Scheme} {password : Option String}

/-- A scheme of a spec that grows, with the first zones in their places. -/
structure Grows (s s' : Scheme) : Prop where
  spec : s.spec.Grows s'.spec
  config : s'.config = s.config
  zones : ∀ i < s.spec.zoneCount, s'.zoneAt i = s.zoneAt i

/-- Specs that grow are planned so. -/
theorem grows_of (hof : Scheme.of config spec = .ok s) (hof' : Scheme.of config spec' = .ok s')
    (h : spec.Grows spec') : s.Grows s' := by
  obtain ⟨letters, -, hletters, -, rfl⟩ := of_eq_ok_iff.1 hof
  obtain ⟨letters', -, hletters', -, rfl⟩ := of_eq_ok_iff.1 hof'
  have hregion : spec'.region = spec.region := by rw [h.rest]
  have hsame : letters' = letters := by
    rw [hregion, hletters] at hletters'
    exact (Option.some.inj hletters').symm
  refine ⟨h, rfl, fun i hi => ?_⟩
  have hi : i < spec.zoneCount := hi
  have hi' : i < spec'.zoneCount := by
    have := h.zones
    omega
  simp [zoneAt, planned, hsame, hregion, hi, hi']

/-- What a scheme that grows is made of. -/
theorem Grows.exists_eq (h : s.Grows s') :
    ∃ zoneCount tiers instanceCount zones plan, s' = ⟨{ s.spec with
      zoneCount := zoneCount, tiers := tiers, instanceCount := instanceCount },
        s.config, zones, plan⟩ := by
  obtain ⟨spec, config, zones, plan⟩ := s'
  obtain ⟨⟨-, -, -, hrest⟩, hconfig, -⟩ := h
  obtain rfl : config = s.config := hconfig
  refine ⟨spec.zoneCount, spec.tiers, spec.instanceCount, zones, plan, ?_⟩
  exact congrArg (Scheme.mk · s.config zones plan) hrest

/-! ## Drafts -/

/-- Names do not depend on counts. -/
theorem nameOf_of_grows (h : s.Grows s') (p : Part) : s'.nameOf p = s.nameOf p := by
  obtain ⟨_, _, _, _, _, rfl⟩ := h.exists_eq
  rfl

/-- The names around a subnet do not either, as long as its zone is one of
the first. -/
theorem row_of_grows (h : s.Grows s') (tier : Tier) {index : Nat} (hi : index < s.spec.zoneCount) :
    s'.row (tier, index) = s.row (tier, index) := by
  have hzone := h.zones index hi
  obtain ⟨_, _, _, _, _, rfl⟩ := h.exists_eq
  rw [row, hzone]
  rfl

/-- **A part is drawn as before**, the subnet group apart. -/
theorem drawn_of_grows (h : s.Grows s') {p : Part} (hp : p ∈ s.ground password ∨ p = .cluster)
    (hgroup : p ≠ .subnetGroup) : s'.drawn password p = s.drawn password p := by
  have hrow : ∀ tier index, (s.extent password).Has (.subnet tier index) →
      s'.row (tier, index) = s.row (tier, index) := fun tier index hhas =>
    row_of_grows h tier hhas.2
  simp only [ground, Extent.mem_parts] at hp
  obtain ⟨_, _, _, _, _, rfl⟩ := h.exists_eq
  cases p with
  | subnetGroup => exact absurd rfl hgroup
  | subnet tier index =>
    rw [drawn, hrow tier index (hp.resolve_right (by simp))]
    rfl
  | association tier index =>
    rw [drawn, hrow tier index (hp.resolve_right (by simp))]
    rfl
  | _ => rfl

/-- A member is drawn as before. -/
theorem member_of_grows (h : s.Grows s') (index : Nat) : s'.member index = s.member index := by
  obtain ⟨_, _, _, _, _, rfl⟩ := h.exists_eq
  rfl

/-! ## The list of drafts -/

/-- The parts are kept, in their order. -/
theorem ground_sublist (h : s.Grows s') (password : Option String) :
    (s.ground password).Sublist (s'.ground password) := by
  refine Extent.parts_sublist ⟨h.spec.zones, h.spec.tiers, ?_, ?_, id⟩
  · obtain ⟨_, _, _, _, _, rfl⟩ := h.exists_eq
    exact fun _ hrouted => hrouted
  · obtain ⟨_, _, _, _, _, rfl⟩ := h.exists_eq
    exact id

/-- The cluster and its members are kept, and further members come after
them. -/
theorem memberDrafts_sublist (h : s.Grows s') (password : Option String) :
    (s.memberDrafts password).Sublist (s'.memberDrafts password) := by
  have hmember : s'.member = s.member := funext (member_of_grows h)
  rw [memberDrafts, memberDrafts, drawn_of_grows h (Or.inr rfl) (by simp), hmember]
  exact ((Plan.prefix_range h.spec.members).sublist.map _).cons_cons _

/-- **The drafts are kept**, the subnet group apart. -/
theorem drafts_sublist (h : s.Grows s') (password : Option String) :
    ((s.drafts password).filter fun d => d.id ≠ "subnet-group").Sublist (s'.drafts password) := by
  have hground :
      ((s.ground password).map (s.drawn password)).filter (fun d => d.id ≠ "subnet-group") =
        ((s.ground password).filter fun p => p.id ≠ "subnet-group").map (s'.drawn password) := by
    rw [List.filter_map]
    have hid : (fun d : Draft => decide (d.id ≠ "subnet-group")) ∘ s.drawn password =
        fun p => decide (p.id ≠ "subnet-group") := funext fun p => by
      rw [Function.comp_apply, drawn_id]
    rw [hid]
    refine List.map_congr_left fun p hp => ?_
    obtain ⟨hp, hid⟩ := List.mem_filter.1 hp
    refine (drawn_of_grows h (Or.inl hp) ?_).symm
    rintro rfl
    exact of_decide_eq_true hid rfl
  rw [drafts, List.filter_append, hground]
  exact ((List.filter_sublist.trans (ground_sublist h password)).map _).append
    (List.filter_sublist.trans (memberDrafts_sublist h password))

/-- Every draft has one of its name and id, the subnet group included. -/
theorem exists_draft (h : s.Grows s') {d : Draft} (hd : d ∈ s.drafts password) :
    ∃ d' ∈ s'.drafts password, d'.name = d.name ∧ d'.id = d.id := by
  rcases List.mem_append.1 hd with hd | hd
  · obtain ⟨p, hp, rfl⟩ := List.mem_map.1 hd
    have hcluster : p ≠ .cluster := fun heq => cluster_not_mem_ground (heq ▸ hp)
    refine ⟨s'.drawn password p, ?_, ?_, ?_⟩
    · exact List.mem_append_left _ (List.mem_map_of_mem ((ground_sublist h password).subset hp))
    · rw [drawn_name s' password hcluster, drawn_name s password hcluster, nameOf_of_grows h]
    · rw [drawn_id, drawn_id]
  · exact ⟨d, List.mem_append_right _ ((memberDrafts_sublist h password).subset hd), rfl, rfl⟩

/-! ## The graph -/

variable {g g' : Graph}

/-- **The resources are kept**, the subnet group apart: each as a whole,
and in their order. -/
theorem nodes_sublist (h : s.Grows s') (hg : g.nodes.map Node.draft = s.drafts password)
    (hg' : g'.nodes.map Node.draft = s'.drafts password) :
    (g.nodes.filter fun n => n.id ≠ "subnet-group").Sublist g'.nodes := by
  have hkeeps : Graph.Keeps g.nodes g'.nodes := by
    intro m hm
    obtain ⟨d, hd, hname, hid⟩ := exists_draft h (hg ▸ List.mem_map_of_mem hm)
    rw [← hg'] at hd
    obtain ⟨m', hm', rfl⟩ := List.mem_map.1 hd
    exact ⟨m', hm', hname, hid⟩
  refine Graph.sublist_of_drafts (Graph.sound_nodes g) (Graph.sound_nodes g') hkeeps
    (List.filter_subset_self _) ?_
  have hfilter : (g.nodes.filter fun n => n.id ≠ "subnet-group").map Node.draft =
      (g.nodes.map Node.draft).filter fun d => d.id ≠ "subnet-group" := by
    rw [List.filter_map]
    rfl
  rw [hfilter, hg, hg']
  exact drafts_sublist h password

/-- **The subnet group lists the subnets of the database tier**, by
zone. -/
theorem exists_subnetGroup (hg : g.nodes.map Node.draft = s.drafts password) :
    ∃ n, g.get? "subnet-group" = some n ∧
      n.property? "subnetIdRefs" = some (.array ((List.range s.spec.zoneCount).map fun z =>
        Draft.ref (s.nameOf (.subnet .database z)))) := by
  obtain ⟨n, hn, hdraft⟩ := exists_node hg (Or.inl (Extent.mem_parts.2 trivial) :
    .subnetGroup ∈ s.ground password ∨ _)
  have hid : n.id = "subnet-group" := congrArg Draft.id hdraft
  have hproperties : n.properties = (s.subnetGroup s.names).properties :=
    congrArg Draft.properties hdraft
  refine ⟨n, ?_, ?_⟩
  · rw [Graph.get?, ← hid]
    exact Graph.find?_key (Graph.sound_nodes g).ids hn
  · rw [Node.property?, hproperties, subnetGroup, names, List.map_map]
    rfl

/-- A spec that wants no fresh password is drawn with its own, or with
none. -/
theorem password_of_settled {σ : Type}
    (h : s.spec.masterPassword = none → s.spec.generatePassword = false)
    (source : PasswordSource σ) (state : σ) :
    (s.password source state).1 = s.spec.masterPassword := by
  rcases s.password_cases source state with ⟨p, hcarried, heq⟩ | ⟨hnone, hfresh, -⟩ |
    ⟨hnone, -, heq⟩
  · rw [heq, hcarried]
  · rw [h hnone] at hfresh
    cases hfresh
  · rw [heq, hnone]

end Scheme

namespace Blueprint

variable {σ τ : Type}

/-- **Scaling out touches nothing that is there.** When a spec grows and
both compile under the same settings, the resources of the first are
resources of the second, each as a whole and in their order. The subnet
group alone has changed, and its list of subnets starts with the one it
had. -/
theorem ofSpec_grows {config : Config} {spec spec' : Spec} (h : spec.Grows spec')
    (hpassword : spec.masterPassword = none → spec.generatePassword = false)
    {source : PasswordSource σ} {state : σ} {b : Blueprint}
    (hb : (ofSpec config source spec state).1 = .ok b)
    {source' : PasswordSource τ} {state' : τ} {b' : Blueprint}
    (hb' : (ofSpec config source' spec' state').1 = .ok b') :
    (b.graph.nodes.filter fun n => n.id ≠ "subnet-group").Sublist b'.graph.nodes ∧
      ∃ group group' refs more, b.graph.get? "subnet-group" = some group ∧
        b'.graph.get? "subnet-group" = some group' ∧
          group.property? "subnetIdRefs" = some (.array refs) ∧
            group'.property? "subnetIdRefs" = some (.array (refs ++ more)) := by
  obtain ⟨s, hof, hdrawn⟩ := exists_of_ofSpec_eq_ok hb
  obtain ⟨s', hof', hdrawn'⟩ := exists_of_ofSpec_eq_ok hb'
  have hgrows := Scheme.grows_of hof hof' h
  obtain ⟨hs, rfl, -⟩ := Scheme.sound_of hof
  obtain ⟨hs', rfl, -⟩ := Scheme.sound_of hof'
  have hsame : s'.spec.masterPassword = s.spec.masterPassword := by rw [h.rest]
  have hpassword' : s'.spec.masterPassword = none → s'.spec.generatePassword = false := by
    rw [h.rest]
    exact hpassword
  rw [Scheme.password_of_settled hpassword] at hdrawn
  rw [Scheme.password_of_settled hpassword', hsame] at hdrawn'
  obtain ⟨g, hassemble, rfl⟩ := Scheme.exists_of_blueprint_eq_ok hs hdrawn
  obtain ⟨g', hassemble', rfl⟩ := Scheme.exists_of_blueprint_eq_ok hs' hdrawn'
  have hg := Scheme.draft_of_assemble hassemble
  have hg' := Scheme.draft_of_assemble hassemble'
  refine ⟨Scheme.nodes_sublist hgrows hg hg', ?_⟩
  obtain ⟨group, hgroup, hrefs⟩ := Scheme.exists_subnetGroup hg
  obtain ⟨group', hgroup', hrefs'⟩ := Scheme.exists_subnetGroup hg'
  -- both lists are images of the zones under the names of the first scheme
  obtain ⟨more, hmore⟩ := (Plan.prefix_range h.zones).map fun z =>
    Draft.ref (s.nameOf (.subnet .database z))
  refine ⟨group, group', _, more, hgroup, hgroup', hrefs, ?_⟩
  rw [hrefs', hmore]
  simp only [Scheme.nameOf_of_grows hgrows]

/-- Two zones of the database tier grow to three of every tier. -/
theorem ofSpec_grows_ofRegion :
    let wide := { Spec.ofRegion "us-west-2" with generatePassword := false }
    let narrow := { wide with zoneCount := 2, tiers := [.database], instanceCount := 1 }
    let source := PasswordSource.constant ""
    ∃ b b' : Blueprint, (ofSpec {} source narrow ()).1 = .ok b ∧
      (ofSpec {} source wide ()).1 = .ok b' ∧
        (b.graph.nodes.filter fun n => n.id ≠ "subnet-group").Sublist b'.graph.nodes := by
  intro wide narrow source
  have hletters : Region.letters? "us-west-2" = some ['a', 'b', 'c', 'd'] := by decide +kernel
  have hnarrow : narrow.check = .ok () := Fallible.toOption_eq_some_iff.1 (by decide +kernel)
  have hwide : wide.check = .ok () := Fallible.toOption_eq_some_iff.1 (by decide +kernel)
  obtain ⟨b, hb⟩ := exists_ofSpec_of_unnamed (rfl : ({} : Config).hashLength = 10) hnarrow
    hletters (by decide) rfl source ()
  obtain ⟨b', hb'⟩ := exists_ofSpec_of_unnamed (rfl : ({} : Config).hashLength = 10) hwide
    hletters (by decide) rfl source ()
  have hgrows : narrow.Grows wide := ⟨by decide, by decide, by decide, rfl⟩
  exact ⟨b, b', hb, hb', (ofSpec_grows hgrows (fun _ => rfl) hb hb').1⟩

end Blueprint

end ClusterBlueprint
