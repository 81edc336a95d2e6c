import ClusterBlueprint.Proofs.Blueprint.Uses
/-!
# Blueprint — drawing

A blueprint is drawn by two runs of an assembly, one over the resources
before the cluster and one over the cluster and its members. The first one
never fails, since names of parts are distinct. The second one fails where
the claim names the cluster and that name, or the name of a member, is
taken (`assemble_of_not_nodup`); where no name is taken there is a graph
(`exists_assemble`). Either way the resources of a graph are the drafts of
the scheme (`draft_of_assemble`).
-/

namespace ClusterBlueprint

namespace Scheme

open ClusterBlueprint.Graph

variable {s : Scheme} {password : Option String}

/-! ## The cluster and its members -/

/-- The draft of a member, counted from zero. -/
def member (s : Scheme) (index : Nat) : Draft :=
  s.clusterInstance s.names (memberName s.clusterName (index + 1)) index

/-- The cluster and its members. -/
def memberDrafts (s : Scheme) (password : Option String) : List Draft :=
  s.drawn password .cluster :: (List.range s.spec.instanceCount).map s.member

theorem members_eq (s : Scheme) (password : Option String) :
    s.members s.names password = s.memberDrafts password := by
  have hinstances : s.names.instances.mapIdx (fun i name => s.clusterInstance s.names name i) =
      (List.range s.spec.instanceCount).map s.member := by
    refine List.ext_getElem (by simp [names]) fun i hi hi' => ?_
    simp [names, member]
  rw [members, hinstances]
  rfl

/-- Everything that is drawn. -/
def drafts (s : Scheme) (password : Option String) : List Draft :=
  (s.ground password).map (s.drawn password) ++ s.memberDrafts password

/-- The names of the cluster and its members. -/
def memberNames (s : Scheme) : List String :=
  s.clusterName :: (List.range s.spec.instanceCount).map fun i => memberName s.clusterName (i + 1)

theorem map_memberDrafts_name (s : Scheme) (password : Option String) :
    (s.memberDrafts password).map Draft.name = s.memberNames := by
  rw [memberDrafts, memberNames, List.map_cons, List.map_map]
  rfl

/-- The names of the resources before the cluster. -/
def groundNames (s : Scheme) (password : Option String) : List String :=
  (s.groundwork s.names password).map Draft.name

theorem groundNames_eq (s : Scheme) (password : Option String) :
    s.groundNames password = (s.ground password).map s.nameOf := by
  rw [groundNames, groundwork_eq, map_drawn_name cluster_not_mem_ground]

/-! ## Ids, names and references -/

/-- Ids are distinct. -/
theorem nodup_ids (hs : s.spec.Checked) (password : Option String) :
    ((s.drafts password).map Draft.id).Nodup := by
  have hground : ((s.ground password).map (s.drawn password)).map Draft.id =
      (s.ground password).map Part.id := by
    rw [List.map_map]
    exact List.map_congr_left fun p _ => drawn_id s password p
  have hmembers : (s.memberDrafts password).map Draft.id = Part.id .cluster ::
      (List.range s.spec.instanceCount).map fun i => "instance-" ++ toString (i + 1) := by
    rw [memberDrafts, List.map_cons, List.map_map]
    rfl
  have hinstances := (Plan.prefix_range hs.instanceCount.2).sublist.map
    fun i => "instance-" ++ toString (i + 1)
  rw [drafts, List.map_append, hground, hmembers, List.perm_middle.nodup_iff]
  exact Part.nodup_ids.sublist ((((ground_subset hs password).map _).cons_cons _).append hinstances)

/-- A part before the cluster is one of those that have a name. -/
theorem mem_named (hs : s.spec.Checked) {p : Part} (hp : p ∈ s.ground password) :
    p ∈ Extent.named :=
  List.mem_cons_of_mem _ ((ground_subset hs password).subset hp)

/-- Names of the parts of a blueprint are distinct. -/
theorem nodup_map_nameOf (hh : 10 ≤ s.config.hashLength) (hs : s.spec.Checked)
    (password : Option String) : ((s.ground password).map s.nameOf).Nodup := by
  refine List.Nodup.map_on (fun p hp q hq => ?_)
    (Part.nodup_named.sublist ((ground_subset hs password).cons _))
  exact nameOf_injOn hh hs (mem_named hs hp) (mem_named hs hq)

/-- Names before the cluster are distinct. -/
theorem nodup_groundNames (hh : s.config.hashLength = 10) (hs : s.spec.Checked)
    (password : Option String) : (s.groundNames password).Nodup := by
  rw [groundNames_eq]
  exact nodup_map_nameOf hh.ge hs password

/-- Members have distinct names. -/
theorem nodup_memberNames (cluster : String) (count : Nat) :
    ((List.range count).map fun i => memberName cluster (i + 1)).Nodup :=
  List.Nodup.map_on (fun _ _ _ _ h => Nat.succ.inj (eq_of_memberName_eq h)) List.nodup_range

/-- The cluster and its members refer to what stands before them. -/
theorem referring_memberDrafts (hs : s.spec.Checked) (password : Option String) :
    Draft.Referring (s.groundNames password) (s.memberDrafts password) := by
  rw [groundNames_eq]
  refine ⟨fun x hx => ?_, Draft.referring_of_forall fun d hd x hx => ?_⟩
  · obtain ⟨q, hq, rfl⟩ := mem_references_drawn.1 hx
    exact List.mem_map_of_mem (uses_subset hs.database (Or.inr rfl) q hq)
  · obtain ⟨i, -, rfl⟩ := List.mem_map.1 hd
    have hground : ∀ p, (s.extent password).Has p → s.nameOf p ∈ (s.ground password).map s.nameOf :=
      fun p hp => List.mem_map_of_mem (Extent.mem_parts.2 hp)
    rw [Draft.references, TextSet.mem_ofList, member, references_clusterInstance] at hx
    rcases List.mem_append.1 hx with hx | hx
    · rcases List.mem_cons.1 hx with rfl | hx
      · exact List.mem_append_right _ List.mem_cons_self
      · rw [List.mem_singleton.1 hx]
        exact List.mem_append_left _ (hground .instanceParameters trivial)
    · split at hx
      · next hm =>
        rw [List.mem_singleton.1 hx]
        exact List.mem_append_left _ (hground .role hm)
      · cases hx

/-! ## The run over the members -/

variable {a b : Assembly} {ds : List Draft}

/-- A member is added where its name is free. -/
theorem addMember_of_not_mem {d : Draft} (h : d.name ∉ a.nodes.map Node.name) :
    s.addMember a d = a.add d := by
  have hfree : a.containsName d.name = false :=
    Bool.eq_false_iff.2 fun hc => h (Assembly.containsName_iff.1 hc)
  rw [addMember, hfree, Bool.and_false]
  rfl

/-- Where all names are free, members are added like everything else. -/
theorem foldlM_addMember_eq (h : (a.nodes.map Node.name ++ ds.map Draft.name).Nodup) :
    ds.foldlM s.addMember a = ds.foldlM Assembly.add a := by
  induction ds generalizing a with
  | nil => rfl
  | cons d ds ih =>
    have hname : d.name ∉ a.nodes.map Node.name := fun hd =>
      (List.nodup_append.1 h).2.2 _ hd d.name (by simp) rfl
    rw [List.foldlM_cons, List.foldlM_cons, addMember_of_not_mem hname]
    cases hadd : a.add d with
    | error cause => rfl
    | ok b =>
      obtain ⟨n, rfl, -, rfl⟩ := Assembly.add_eq_ok_iff.1 hadd
      exact ih (by simpa [Node.draft] using h)

/-- A run over members that succeeds adds them. -/
theorem foldlM_add_of_addMember (h : ds.foldlM s.addMember a = .ok b) :
    ds.foldlM Assembly.add a = .ok b := by
  induction ds generalizing a with
  | nil => exact h
  | cons d ds ih =>
    rw [List.foldlM_cons, Fallible.bind_eq_ok] at h
    obtain ⟨c, hc, h⟩ := h
    have hadd : a.add d = .ok c := by
      unfold addMember at hc
      split at hc
      · cases hc
      · exact hc
    rw [List.foldlM_cons, hadd]
    exact ih h

/-- **Where the claim names the cluster, a name that is taken is refused.** -/
theorem foldlM_addMember_of_not_nodup (hc : s.spec.clusterName.isSome) (hs : Graph.Sound a.nodes)
    (href : Draft.Referring (a.nodes.map Node.name) ds)
    (hids : (a.nodes.map Node.id ++ ds.map Draft.id).Nodup)
    (hnames : ¬ (a.nodes.map Node.name ++ ds.map Draft.name).Nodup) :
    ∃ name ∈ ds.map Draft.name,
      ds.foldlM s.addMember a = .error (.field "clusterName" (.nameTaken name)) := by
  induction ds generalizing a with
  | nil => exact absurd (by simpa using hs.names) hnames
  | cons d ds ih =>
    by_cases hd : d.name ∈ a.nodes.map Node.name
    · refine ⟨d.name, by simp, ?_⟩
      have htaken : s.addMember a d = .error (.field "clusterName" (.nameTaken d.name)) := by
        rw [addMember, hc, Assembly.containsName_iff.2 hd]
        rfl
      rw [List.foldlM_cons, htaken]
      rfl
    -- a free name is added, and the repeat is further on
    · obtain ⟨n, hadd, rfl, hres⟩ := Assembly.exists_add hs.names href.1
      have hid : n.id ∉ a.nodes.map Node.id := fun h =>
        (List.nodup_append.1 hids).2.2 _ h n.id (by simp [Node.draft]) rfl
      obtain ⟨name, hmem, hrest⟩ := ih (a := ⟨a.nodes ++ [n]⟩) (sound_append hs hid hd hres)
        (by simpa [Node.draft] using href.2) (by simpa [Node.draft] using hids)
        (by simpa [Node.draft] using hnames)
      refine ⟨name, by simp [hmem], ?_⟩
      rw [List.foldlM_cons, addMember_of_not_mem hd, hadd]
      exact hrest

/-! ## The whole -/

/-- **What stands before the cluster is always drawn**, and has ids that no
member has. -/
theorem exists_ground (hh : 10 ≤ s.config.hashLength) (hs : s.spec.Checked)
    (password : Option String) :
    ∃ a, (s.groundwork s.names password).foldlM Assembly.add Assembly.empty = .ok a ∧
      Graph.Sound a.nodes ∧ a.nodes.map Node.name = s.groundNames password ∧
        (a.nodes.map Node.id ++ (s.memberDrafts password).map Draft.id).Nodup := by
  have hids := nodup_ids hs password
  rw [drafts, List.map_append] at hids
  have hnames := nodup_map_nameOf hh hs password
  rw [← groundNames_eq, groundNames, groundwork_eq] at hnames
  obtain ⟨a, hground, hsound, hdrafts⟩ := Assembly.foldlM_add sound_nil
    (referring_ground hs password) (List.nodup_append.1 hids).1 hnames
  have hdrafts : a.nodes.map Node.draft = (s.ground password).map (s.drawn password) := hdrafts
  refine ⟨a, groundwork_eq s password ▸ hground, hsound, ?_, ?_⟩
  · rw [groundNames, groundwork_eq, ← hdrafts, List.map_map]
    rfl
  · rw [← hdrafts, List.map_map] at hids
    exact hids

/-- **Where no name is taken, there is a graph.** -/
theorem exists_assemble (hh : 10 ≤ s.config.hashLength) (hs : s.spec.Checked)
    (h : (s.groundNames password ++ s.memberNames).Nodup) :
    ∃ g, s.assemble s.names password = .ok g := by
  obtain ⟨a, hground, hsound, hnames, hids⟩ := exists_ground hh hs password
  rw [← hnames, ← map_memberDrafts_name s password] at h
  obtain ⟨b, hmembers, hsound', -⟩ := Assembly.foldlM_add hsound
    (hnames ▸ referring_memberDrafts hs password) hids h
  obtain ⟨g, hg, -⟩ := ofNodes_of_sound hsound'
  refine ⟨g, ?_⟩
  rw [assemble, hground, Fallible.ok_bind, members_eq, foldlM_addMember_eq h, hmembers]
  exact hg

/-- **Where the claim names the cluster and a name is taken, there is
none.** -/
theorem assemble_of_not_nodup (hh : 10 ≤ s.config.hashLength) (hs : s.spec.Checked)
    (hc : s.spec.clusterName.isSome) (h : ¬ (s.groundNames password ++ s.memberNames).Nodup) :
    ∃ name ∈ s.memberNames,
      s.assemble s.names password = .error (.field "clusterName" (.nameTaken name)) := by
  obtain ⟨a, hground, hsound, hnames, hids⟩ := exists_ground hh hs password
  rw [← hnames, ← map_memberDrafts_name s password] at h
  obtain ⟨name, hname, herror⟩ := foldlM_addMember_of_not_nodup hc hsound
    (hnames ▸ referring_memberDrafts hs password) hids h
  refine ⟨name, map_memberDrafts_name s password ▸ hname, ?_⟩
  rw [assemble, hground, Fallible.ok_bind, members_eq, herror]
  rfl

/-- **The resources of a graph are the drafts.** -/
theorem draft_of_assemble {g : Graph} (h : s.assemble s.names password = .ok g) :
    g.nodes.map Node.draft = s.drafts password := by
  unfold assemble at h
  obtain ⟨a, hground, h⟩ := Fallible.bind_eq_ok.1 h
  obtain ⟨b, hmembers, hg⟩ := Fallible.bind_eq_ok.1 h
  rw [members_eq] at hmembers
  rw [nodes_of_ofNodes hg, Assembly.draft_of_foldlM_add (foldlM_add_of_addMember hmembers),
    Assembly.draft_of_foldlM_add hground, groundwork_eq, drafts]
  rfl

/-! ## When names are taken -/

/-- **Names that are made are never taken.** -/
theorem nodup_names_of_none (hh : 10 ≤ s.config.hashLength) (hs : s.spec.Checked)
    (hnone : s.spec.clusterName = none) (password : Option String) :
    (s.groundNames password ++ s.memberNames).Nodup := by
  have hcluster : s.clusterName = s.nameOf .cluster := by rw [clusterName, hnone, Option.getD_none]
  have hfifteen : ∀ i ∈ List.range s.spec.instanceCount, i + 1 ≤ 15 := fun i hi => by
    have hcount := hs.instanceCount.2
    have hlt := List.mem_range.1 hi
    omega
  rw [groundNames_eq, memberNames, hcluster]
  refine List.nodup_append.2 ⟨nodup_map_nameOf hh hs password, List.nodup_cons.2 ⟨?_, ?_⟩, ?_⟩
  · intro h
    obtain ⟨i, hi, heq⟩ := List.mem_map.1 h
    exact memberName_ne_nameOf_cluster hs (hfifteen i hi) heq
  · exact nodup_memberNames _ _
  · rintro x hx y hy rfl
    obtain ⟨p, hp, rfl⟩ := List.mem_map.1 hx
    rcases List.mem_cons.1 hy with heq | hy
    · have hpart : p = .cluster := nameOf_injOn hh hs (mem_named hs hp) List.mem_cons_self heq
      exact cluster_not_mem_ground (hpart ▸ hp)
    · obtain ⟨i, hi, heq⟩ := List.mem_map.1 hy
      exact memberName_ne_nameOf hs (hfifteen i hi) (mem_named hs hp) heq

/-- The name that the claim gives the cluster, or the name that a member
has by it, is taken. -/
def NameClash (s : Scheme) (password : Option String) : Prop :=
  ∃ cluster, s.spec.clusterName = some cluster ∧
    (cluster ∈ s.groundNames password ∨
      ∃ ordinal name, 1 ≤ ordinal ∧ ordinal ≤ s.spec.instanceCount ∧
        Naming.instanceName? cluster ordinal = some name ∧
          (name = cluster ∨ name ∈ s.groundNames password))

/-- **Names are distinct where nothing clashes.** -/
theorem nodup_names_iff (hh : 10 ≤ s.config.hashLength) (hs : s.spec.Checked)
    (password : Option String) :
    (s.groundNames password ++ s.memberNames).Nodup ↔ ¬ s.NameClash password := by
  cases hname : s.spec.clusterName with
  | none =>
    refine iff_of_true (nodup_names_of_none hh hs hname password) ?_
    rintro ⟨cluster, hcluster, -⟩
    rw [hname] at hcluster
    cases hcluster
  | some cluster =>
    have hcluster : s.clusterName = cluster := by rw [clusterName, hname, Option.getD_some]
    have hmember : ∀ n, Naming.instanceName? cluster n = some (memberName cluster n) :=
      Naming.instanceName?_eq (hs.clusterName cluster hname).isAscii
    rw [List.nodup_append, memberNames, hcluster, List.nodup_cons]
    constructor
    · rintro ⟨-, ⟨hown, -⟩, hfree⟩ ⟨other, hother, hclash⟩
      obtain rfl : cluster = other := Option.some.inj (hname.symm.trans hother)
      rcases hclash with hground | ⟨n, name, hpos, hle, hsome, htaken⟩
      · exact hfree cluster hground cluster List.mem_cons_self rfl
      · obtain rfl : memberName cluster n = name := Option.some.inj ((hmember n).symm.trans hsome)
        have hmem : memberName cluster n ∈
            (List.range s.spec.instanceCount).map fun i => memberName cluster (i + 1) :=
          List.mem_map.2 ⟨n - 1, List.mem_range.2 (by omega), by rw [Nat.sub_add_cancel hpos]⟩
        rcases htaken with heq | hground
        · rw [heq] at hmem
          exact hown hmem
        · exact hfree _ hground _ (List.mem_cons_of_mem _ hmem) rfl
    · intro hno
      -- what does not clash is free, the cluster's own name and each member's
      have hclash : ∀ i < s.spec.instanceCount,
          ¬ (memberName cluster (i + 1) = cluster ∨
            memberName cluster (i + 1) ∈ s.groundNames password) := fun i hi h =>
        hno ⟨cluster, hname,
          Or.inr ⟨i + 1, memberName cluster (i + 1), by omega, hi, hmember (i + 1), h⟩⟩
      refine ⟨groundNames_eq s password ▸ nodup_map_nameOf hh hs password,
        ⟨fun h => ?_, nodup_memberNames _ _⟩, ?_⟩
      · obtain ⟨i, hi, heq⟩ := List.mem_map.1 h
        exact hclash i (List.mem_range.1 hi) (Or.inl heq)
      · rintro x hx y hy rfl
        rcases List.mem_cons.1 hy with rfl | hy
        · exact hno ⟨x, hname, Or.inl hx⟩
        · obtain ⟨i, hi, rfl⟩ := List.mem_map.1 hy
          exact hclash i (List.mem_range.1 hi) (Or.inr hx)

end Scheme

end ClusterBlueprint
