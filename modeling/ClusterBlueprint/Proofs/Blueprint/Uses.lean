import ClusterBlueprint.Proofs.Blueprint.Drafts
import ClusterBlueprint.Proofs.Graph.Runs
/-!
# Blueprint — which parts use which

`Scheme.uses` says of each part which others it refers to, and the
references in the properties of its draft are the names of those
(`references_drawn`). A part of an extent uses parts that come before it
only, so the drafts of a scheme refer to earlier ones (`referring_ground`).
-/

namespace ClusterBlueprint

namespace Scheme

open Json

variable {s : Scheme} {p : Part} {password : Option String}

/-- The parts that a part refers to. -/
def uses (s : Scheme) (password : Option String) : Part → List Part
  | .vpc | .role | .clusterParameters | .instanceParameters | .secret => []
  | .gateway | .subnet _ _ | .routeTable _ | .securityGroup => [.vpc]
  | .route tier => [.gateway, .routeTable tier]
  | .association tier index => [.routeTable tier, .subnet tier index]
  | .ingress | .egress => [.securityGroup]
  | .rolePolicy => [.role]
  | .subnetGroup => (List.range s.spec.zoneCount).map (.subnet .database)
  | .cluster =>
    [.clusterParameters, .subnetGroup] ++ (if password.isSome then [.secret] else [])
      ++ [.securityGroup]

/-! ## References of a draft -/

/-- The keys of fields that hold documents and no references. -/
def plainKeys : List String :=
  ["tags", "cidrBlocks", "parameter", "data", "serverlessv2ScalingConfiguration"]

theorem fieldReferences_plain {key : String}
    (h : key ∈ plainKeys) (value : Json) :
    fieldReferences key value = [] := by
  have hkeys : ∀ key ∈ plainKeys,
      "Ref".toList.isSuffixOf key.toList = false ∧ "Refs".toList.isSuffixOf key.toList = false := by
    decide
  exact fieldReferences_of_key (hkeys key h).1 (hkeys key h).2 value

/-- **A draft refers to the names of the parts that its part uses.** -/
theorem references_drawn (s : Scheme) (password : Option String) (p : Part) :
    (s.drawn password p).properties.references = (s.uses password p).map s.nameOf := by
  have htags : ∀ value, fieldReferences "tags" value = [] := fieldReferences_plain (by decide)
  have hblocks : ∀ value, fieldReferences "cidrBlocks" value = [] :=
    fieldReferences_plain (by decide)
  have hparameter : ∀ value, fieldReferences "parameter" value = [] :=
    fieldReferences_plain (by decide)
  have hdata : ∀ value, fieldReferences "data" value = [] := fieldReferences_plain (by decide)
  have hvpc : ∀ n, fieldReferences "vpcIdRef" (Draft.ref n) = [n] := fieldReferences_ref (by decide)
  have hgateway : ∀ n, fieldReferences "gatewayIdRef" (Draft.ref n) = [n] :=
    fieldReferences_ref (by decide)
  have htable : ∀ n, fieldReferences "routeTableIdRef" (Draft.ref n) = [n] :=
    fieldReferences_ref (by decide)
  have hsubnet : ∀ n, fieldReferences "subnetIdRef" (Draft.ref n) = [n] :=
    fieldReferences_ref (by decide)
  have hgroup : ∀ n, fieldReferences "securityGroupIdRef" (Draft.ref n) = [n] :=
    fieldReferences_ref (by decide)
  have hrole : ∀ n, fieldReferences "roleRef" (Draft.ref n) = [n] := fieldReferences_ref (by decide)
  cases p with
  | cluster =>
    have hparameters : ∀ n, fieldReferences "dbClusterParameterGroupNameRef" (Draft.ref n) = [n] :=
      fieldReferences_ref (by decide)
    have hsubnets : ∀ n, fieldReferences "dbSubnetGroupNameRef" (Draft.ref n) = [n] :=
      fieldReferences_ref (by decide)
    have hgroups : ∀ n, fieldReferences "vpcSecurityGroupIdRefs" (.array [Draft.ref n]) = [n] :=
      fun n => fieldReferences_refs (by decide) (by decide) [n]
    have hscaling : ∀ value, fieldReferences "serverlessv2ScalingConfiguration" value = [] :=
      fieldReferences_plain (by decide)
    have hsecret : ∀ n objectNamespace, fieldReferences "masterPasswordSecretRef" (.object
        [("key", .text passwordKey), ("name", .text n), ("namespace", objectNamespace)]) = [n] := by
      intro n objectNamespace
      rw [fieldReferences, if_pos (by decide)]
      rfl
    cases password <;>
      simp only [drawn, cluster, engine, passwordSource, references, referencesInFields,
        referencesInItems, fieldReferences_text, fieldReferences_bool, fieldReferences_nat,
        fieldReferences_decimal, hparameters, hsubnets, hgroups, hscaling, hsecret, htags,
        references_ref, references_nat, tags, references_ofDict, region, List.nil_append,
        List.append_nil, List.cons_append, uses, List.map_cons, List.map_nil, names,
        Option.isSome_none, Option.isSome_some, Bool.false_eq_true, if_true, if_false]
  | subnetGroup =>
    have hsubnets : ∀ ns, fieldReferences "subnetIdRefs" (.array (ns.map Draft.ref)) = ns :=
      fieldReferences_refs (by decide) (by decide)
    simp only [drawn, subnetGroup, references, referencesInFields, fieldReferences_text, hsubnets,
      htags, referencesInItems_refs, tags, references_ofDict, region, List.nil_append,
      List.append_nil]
    rw [uses, List.map_map]
    rfl
  | association tier index =>
    have hproperties : (s.drawn password (.association tier index)).properties = .object
        [("region", s.region),
          ("routeTableIdRef", Draft.ref (s.nameOf (.routeTable tier))),
          ("subnetIdRef", Draft.ref (s.nameOf (.subnet tier index)))] := rfl
    rw [hproperties]
    simp only [references, referencesInFields, fieldReferences_text, htable, hsubnet,
      references_ref, region, List.nil_append, List.append_nil, List.cons_append, uses,
      List.map_cons, List.map_nil]
  | _ =>
    simp only [drawn, vpc, gateway, subnet, subnetTags, routeTable, route, securityGroup, rule,
      ingress, egress, role, rolePolicy, parameterGroup, clusterParameters, instanceParameters,
      Scheme.secret, parameters, references, referencesInFields, referencesInItems,
      fieldReferences_text, fieldReferences_bool, fieldReferences_nat, htags, hblocks, hparameter,
      hdata, hvpc, hgateway, htable, hgroup, hrole, references_ref, references_nat,
      references_texts, tags, references_ofDict, region, List.nil_append, List.append_nil,
      List.cons_append, uses, List.map_cons, List.map_nil, names, tierRow]

/-- **A member refers to the cluster**, to its parameters and to the role
that monitors it. -/
theorem references_clusterInstance (s : Scheme) (name : String) (index : Nat) :
    (s.clusterInstance s.names name index).properties.references =
      [s.clusterName, s.nameOf .instanceParameters] ++
        if s.isMonitored then [s.nameOf .role] else [] := by
  have htags : ∀ value, fieldReferences "tags" value = [] := fieldReferences_plain (by decide)
  have hcluster : ∀ n, fieldReferences "clusterIdentifierRef" (Draft.ref n) = [n] :=
    fieldReferences_ref (by decide)
  have hparameters : ∀ n, fieldReferences "dbParameterGroupNameRef" (Draft.ref n) = [n] :=
    fieldReferences_ref (by decide)
  have hrole : ∀ n, fieldReferences "monitoringRoleArnRef" (Draft.ref n) = [n] :=
    fieldReferences_ref (by decide)
  unfold clusterInstance monitoringFields
  cases s.isMonitored <;>
    simp only [engine, references, referencesInFields, fieldReferences_text, fieldReferences_bool,
      fieldReferences_nat, hcluster, hparameters, hrole, htags, references_ref, references_nat,
      tags, references_ofDict, region, List.nil_append, List.append_nil, List.cons_append, names,
      if_true, if_false, Bool.false_eq_true]

/-! ## Everything that is used stands before -/

/-- Parts use parts of lower layers. -/
theorem layer_lt_of_uses (s : Scheme) (password : Option String) (p : Part) :
    ∀ q ∈ s.uses password p, q.layer < p.layer := by
  cases p with
  | cluster => cases password <;> simp [uses, Part.layer]
  | _ => simp [uses, Part.layer]

/-- Parts of a blueprint use parts of it. -/
theorem uses_subset (hd : .database ∈ s.spec.tiers) (hp : p ∈ s.ground password ∨ p = .cluster) :
    ∀ q ∈ s.uses password p, q ∈ s.ground password := by
  simp only [ground, Extent.mem_parts] at hp ⊢
  cases p with
  | cluster => cases password <;> simp [uses, Extent.Has, extent]
  | _ => simp_all [uses, Extent.Has, extent]

/-- The names that a draft refers to. -/
theorem mem_references_drawn {x : String} :
    x ∈ (s.drawn password p).references ↔ ∃ q ∈ s.uses password p, s.nameOf q = x := by
  rw [Draft.references, TextSet.mem_ofList, references_drawn, List.mem_map]

/-- The names of drafts are those of their parts. -/
theorem map_drawn_name {ps : List Part} (hps : .cluster ∉ ps) :
    (ps.map (s.drawn password)).map Draft.name = ps.map s.nameOf := by
  rw [List.map_map]
  refine List.map_congr_left fun p hp => drawn_name s password fun hcluster => ?_
  exact hps (hcluster ▸ hp)

theorem cluster_not_mem_ground : .cluster ∉ s.ground password := fun h => Extent.mem_parts.1 h

/-- **Each draft refers to earlier ones.** -/
theorem referring_ground (hs : s.spec.Checked) (password : Option String) :
    Draft.Referring [] ((s.ground password).map (s.drawn password)) := by
  refine Draft.referring_of_split fun earlier d later heq x hx => ?_
  obtain ⟨ps, qs, hground, rfl, htail⟩ := List.map_eq_append_iff.1 heq
  obtain ⟨p, rs, rfl, rfl, rfl⟩ := List.map_eq_cons_iff.1 htail
  obtain ⟨q, hq, rfl⟩ := mem_references_drawn.1 hx
  have hcluster : .cluster ∉ ps := fun h =>
    cluster_not_mem_ground (hground.symm ▸ List.mem_append_left _ h)
  have hp : p ∈ s.ground password := hground.symm ▸ List.mem_append_cons_self
  rw [List.nil_append, map_drawn_name hcluster]
  refine List.mem_map_of_mem ?_
  -- what is used is in the list, in a lower layer, and so before the part that uses it
  have hmem : q ∈ ps ++ p :: rs :=
    hground ▸ uses_subset hs.database (Or.inl hp) q hq
  have hlayers : (ps ++ p :: rs).Pairwise fun p q => p.layer ≤ q.layer :=
    hground ▸ Part.pairwise_layer.sublist (ground_subset hs password)
  have hlt := layer_lt_of_uses s password p q hq
  rcases List.mem_append.1 hmem with hmem | hmem
  · exact hmem
  · rcases List.mem_cons.1 hmem with rfl | hmem
    · omega
    · have hle := (List.pairwise_cons.1 (List.pairwise_append.1 hlayers).2.1).1 q hmem
      omega

end Scheme

end ClusterBlueprint
