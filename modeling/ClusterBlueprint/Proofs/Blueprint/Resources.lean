import ClusterBlueprint.Proofs.Blueprint.Replay
/-!
# Blueprint — the resources of a compiled claim

A claim that compiles has a sound scheme, a password that it was drawn
with, and the graph of the two (`exists_drawn`). Every resource of that
graph is a part or a member of the cluster (`draft_cases`), and its id
says which: ids of parts and members are all distinct, in whatever claims
they occur.
-/

namespace ClusterBlueprint

/-! ## Ids -/

/-- The id of a member, counted from zero. -/
def memberId (index : Nat) : String := "instance-" ++ toString (index + 1)

namespace Part

variable {p q : Part} {i j : Nat}

/-- Parts are told apart by their ids. -/
theorem eq_of_id_eq (hp : p ∈ Extent.named) (hq : q ∈ Extent.named) (h : p.id = q.id) : p = q :=
  List.inj_on_of_nodup_map (List.nodup_append.1 nodup_ids).1 hp hq h

/-- No part has the id of a member. -/
theorem id_ne_memberId (hp : p ∈ Extent.named) (hi : i < 15) : p.id ≠ memberId i :=
  (List.nodup_append.1 nodup_ids).2.2 _ (List.mem_map_of_mem hp) _
    (List.mem_map.2 ⟨i, List.mem_range.2 hi, rfl⟩)

/-- Members are told apart by their ids. -/
theorem eq_of_memberId_eq (hi : i < 15) (hj : j < 15) (h : memberId i = memberId j) : i = j :=
  List.inj_on_of_nodup_map (List.nodup_append.1 nodup_ids).2.1 (List.mem_range.2 hi)
    (List.mem_range.2 hj) h

end Part

/-! ## Parts and members -/

namespace Scheme

variable {s : Scheme} {password : Option String} {n : Node}

/-- The parts of a blueprint are those that have a name. -/
theorem mem_named_of_drawn (hs : s.spec.Checked) {p : Part}
    (hp : p ∈ s.ground password ∨ p = .cluster) : p ∈ Extent.named := by
  rcases hp with hp | rfl
  · exact mem_named hs hp
  · exact List.mem_cons_self

/-- The name that a part is drawn with. -/
theorem name_of_drawn {p : Part} (hn : n.draft = s.drawn password p) :
    n.name = if p = .cluster then s.clusterName else s.nameOf p := by
  have hname : n.name = (s.drawn password p).name := congrArg Draft.name hn
  rw [hname]
  split
  · next h => subst h; rfl
  · next h => exact drawn_name s password h

/-- The id that a part is drawn with. -/
theorem id_of_drawn {p : Part} (hn : n.draft = s.drawn password p) : n.id = p.id :=
  (congrArg Draft.id hn).trans (drawn_id s password p)

/-- The kind that a part is drawn with. -/
theorem kind_of_drawn {p : Part} (hn : n.draft = s.drawn password p) : n.kind = p.kind :=
  (congrArg Draft.kind hn).trans (drawn_kind s password p)

/-- The id that a member is drawn with. -/
theorem id_of_member {i : Nat} (hn : n.draft = s.member i) : n.id = memberId i :=
  congrArg Draft.id hn

/-- The name that a member is drawn with. -/
theorem name_of_member {i : Nat} (hn : n.draft = s.member i) :
    n.name = memberName s.clusterName (i + 1) :=
  congrArg Draft.name hn

/-- The kind that a member is drawn with. -/
theorem kind_of_member {i : Nat} (hn : n.draft = s.member i) : n.kind = .clusterInstance :=
  congrArg Draft.kind hn

end Scheme

namespace Blueprint

variable {σ : Type} {config : Config} {source : PasswordSource σ} {claim : Json} {state : σ}
  {spec : Spec} {b : Blueprint}

/-- **A claim that is read and does not name its cluster compiles** in
every region with enough zones. -/
theorem exists_ofClaim_of_unnamed (hh : config.hashLength = 10)
    (hspec : Spec.ofClaim claim = .ok spec) {letters : List Char}
    (hletters : Region.letters? spec.region = some letters)
    (hle : spec.zoneCount ≤ letters.length) (hnone : spec.clusterName = none)
    (source : PasswordSource σ) (state : σ) :
    ∃ b, (ofClaim config source claim state).1 = .ok b := by
  rw [ofClaim, hspec]
  exact exists_ofSpec_of_unnamed hh (Spec.check_of_ofClaim hspec) hletters hle hnone source state

/-- The western region has four zones, enough for every claim. -/
theorem exists_ofClaim_west (hspec : Spec.ofClaim claim = .ok spec)
    (hregion : spec.region = "us-west-2") (hnone : spec.clusterName = none)
    (source : PasswordSource σ) (state : σ) :
    ∃ b, (ofClaim {} source claim state).1 = .ok b := by
  have hletters : Region.letters? spec.region = some ['a', 'b', 'c', 'd'] := by
    rw [hregion]
    decide +kernel
  have hzones := (Spec.checked_of_check (Spec.check_of_ofClaim hspec)).zoneCount.2
  exact exists_ofClaim_of_unnamed rfl hspec hletters (Nat.le_succ_of_le hzones) hnone source state

/-- **A claim that is read and whose names are all distinct compiles** in
every region with enough zones. -/
theorem exists_ofClaim_of_nodup (hh : config.hashLength = 10)
    (hspec : Spec.ofClaim claim = .ok spec) {letters : List Char}
    (hletters : Region.letters? spec.region = some letters)
    (hle : spec.zoneCount ≤ letters.length)
    (hnodup : ∀ password, ((Scheme.planned config spec letters).groundNames password ++
      (Scheme.planned config spec letters).memberNames).Nodup)
    (source : PasswordSource σ) (state : σ) :
    ∃ b, (ofClaim config source claim state).1 = .ok b := by
  have hof : Scheme.of config spec = .ok (.planned config spec letters) :=
    Scheme.of_eq_ok_iff.2 ⟨letters, Spec.check_of_ofClaim hspec, hletters, hle, rfl⟩
  obtain ⟨hs, -⟩ := Scheme.sound_of hof
  rw [ofClaim_eq hspec hof]
  rcases Scheme.blueprint_outcome hh hs
    ((Scheme.planned config spec letters).password source state).1 with ⟨hclash, -⟩ | ⟨-, hb⟩
  · exact absurd hclash ((Scheme.nodup_names_iff hh.ge hs.spec _).1 (hnodup _))
  · exact hb

/-- **A blueprint has a password exactly where its claim carries or wants
one.** -/
theorem isSome_masterPassword_iff (hspec : Spec.ofClaim claim = .ok spec)
    (h : (ofClaim config source claim state).1 = .ok b) :
    b.connection.masterPassword.isSome ↔
      spec.masterPassword.isSome ∨ spec.generatePassword = true := by
  obtain ⟨read, s, hread, hof, hdrawn⟩ := exists_scheme h
  obtain rfl : read = spec := Except.ok.inj (hread.symm.trans hspec)
  obtain ⟨hs, rfl, -⟩ := Scheme.sound_of hof
  rw [Scheme.masterPassword_eq hs hdrawn]
  rcases s.password_cases source state with ⟨p, hp, heq⟩ | ⟨hnone, hfresh, heq⟩ | ⟨hnone, hno, heq⟩
  · simp [heq, hp]
  · simp [heq, hfresh]
  · simp [heq, hnone, hno]

/-- **What a claim that compiles was drawn from.** -/
theorem exists_drawn (hspec : Spec.ofClaim claim = .ok spec)
    (h : (ofClaim config source claim state).1 = .ok b) :
    ∃ (s : Scheme) (password : Option String) (g : Graph), s.Sound ∧ s.spec = spec ∧
      s.config = config ∧ g.nodes.map Node.draft = s.drafts password ∧
        b = s.blueprintOf password g := by
  obtain ⟨read, s, hread, hof, hdrawn⟩ := exists_scheme h
  obtain rfl : read = spec := Except.ok.inj (hread.symm.trans hspec)
  obtain ⟨hs, hsspec, hsconfig⟩ := Scheme.sound_of hof
  obtain ⟨g, hg, hb⟩ := Scheme.exists_of_blueprint_eq_ok hs hdrawn
  exact ⟨s, _, g, hs, hsspec, hsconfig, Scheme.draft_of_assemble hg, hb⟩

/-- A part that every extent asks for has a resource. -/
theorem exists_resource (hspec : Spec.ofClaim claim = .ok spec)
    (h : (ofClaim config source claim state).1 = .ok b) {p : Part} (hp : ∀ e : Extent, e.Has p) :
    ∃ n ∈ b.graph.nodes, n.id = p.id := by
  obtain ⟨s, password, g, -, -, -, hg, rfl⟩ := exists_drawn hspec h
  obtain ⟨n, hn, hdraft⟩ := Scheme.exists_node hg (Or.inl (Extent.mem_parts.2 (hp _)))
  exact ⟨n, hn, Scheme.id_of_drawn hdraft⟩

end Blueprint

end ClusterBlueprint
