import ClusterBlueprint.Proofs.Graph.Runs
/-!
# Graph — calls to an assembly, some of them refused

An assembly is called with drafts one after the other, whatever became of
the calls before. What every call keeps is that each resource has the
dependencies that were worked out from the ones before it (`WorkedOut`), and
nothing more is needed of a list with distinct ids and names for it to be
sound (`sound_iff_workedOut`). So the drafts that were not refused become a
graph exactly when their ids and names are distinct, and the resources of a
graph, taken as drafts, are put together again as they were (`calls_exact`).

The assembly looks names up in its resources. A `Ledger` keeps the ids
under their names instead and is written in place: a repeated name
overwrites the id of the earlier one, and what was written before a call
fails stays written. It gives the same answers (`Ledger.call_shows`).
-/

namespace ClusterBlueprint

/-! ## Calls one after the other -/

section Serve

variable {σ τ : Type} {call : σ → Draft → Except Fault Unit × σ}
variable {call' : τ → Draft → Except Fault Unit × τ}

/-- What is answered to drafts one after the other, and the state that the
last call leaves. -/
def serve (call : σ → Draft → Except Fault Unit × σ) (s : σ) :
    List Draft → List (Except Fault Unit) × σ
  | [] => ([], s)
  | d :: ds =>
    let rest := serve call (call s d).2 ds
    ((call s d).1 :: rest.1, rest.2)

theorem serve_cons {s : σ} {d : Draft} {ds : List Draft} :
    serve call s (d :: ds) =
      ((call s d).1 :: (serve call (call s d).2 ds).1, (serve call (call s d).2 ds).2) := rfl

theorem serve_append {s : σ} {ds es : List Draft} :
    serve call s (ds ++ es) =
      ((serve call s ds).1 ++ (serve call (serve call s ds).2 es).1,
        (serve call (serve call s ds).2 es).2) := by
  induction ds generalizing s with
  | nil => rfl
  | cons d ds ih => rw [List.cons_append, serve_cons, serve_cons, ih, List.cons_append]

/-- **Two machines give the same answers** when they do to one call, from
states that correspond, and leave states that correspond. -/
theorem serve_simulates {Shows : σ → τ → Prop}
    (hcall : ∀ s t d, Shows s t →
      (call s d).1 = (call' t d).1 ∧ Shows (call s d).2 (call' t d).2)
    {s : σ} {t : τ} (h : Shows s t) (ds : List Draft) :
    (serve call s ds).1 = (serve call' t ds).1 ∧
      Shows (serve call s ds).2 (serve call' t ds).2 := by
  induction ds generalizing s t with
  | nil => exact ⟨rfl, h⟩
  | cons d ds ih =>
    obtain ⟨hanswer, hnext⟩ := hcall s t d h
    obtain ⟨hanswers, hlast⟩ := ih hnext
    refine ⟨?_, hlast⟩
    show (call s d).1 :: _ = (call' t d).1 :: _
    rw [hanswer, hanswers]

end Serve

/-- The drafts that were not refused. -/
def acceptedOf (ds : List Draft) (answers : List (Except Fault Unit)) : List Draft :=
  ((ds.zip answers).filter fun (_, answer) => answer.isOk).map Prod.fst

namespace Assembly

open ClusterBlueprint.Graph

variable {a b : Assembly} {d : Draft} {ds : List Draft} {nodes : List Node} {n : Node}

/-- What is answered to a draft, and the assembly after it: the one before,
if the draft is refused. -/
def call (a : Assembly) (d : Draft) : Except Fault Unit × Assembly :=
  match a.add d with
  | .ok b => (.ok (), b)
  | .error cause => (.error cause, a)

/-- The answers to drafts from the start. -/
def answers (ds : List Draft) : List (Except Fault Unit) := (serve call empty ds).1

/-- The assembly that drafts leave. -/
def after (ds : List Draft) : Assembly := (serve call empty ds).2

/-- The drafts that are not refused. -/
def accepted (ds : List Draft) : List Draft := acceptedOf ds (answers ds)

/-! ## What every call keeps -/

/-- A refused call leaves the assembly as it was. -/
theorem call_of_error {cause : Fault} (h : (a.call d).1 = .error cause) :
    a.call d = (.error cause, a) := by
  unfold call at h ⊢
  cases hadd : a.add d with
  | ok b =>
    rw [hadd] at h
    cases h
  | error cause =>
    rw [hadd] at h
    cases h
    rfl

/-- Each resource has the dependencies that were worked out from the ones
before it. -/
def WorkedOut (nodes : List Node) : Prop :=
  ∀ earlier n later, nodes = earlier ++ n :: later →
    (⟨earlier⟩ : Assembly).dependencies n.draft = .ok n.dependsOn

/-- A call adds one resource with the dependencies worked out, or none. -/
theorem call_cases (a : Assembly) (d : Draft) :
    (∃ n : Node, a.call d = (.ok (), ⟨a.nodes ++ [n]⟩) ∧ n.draft = d ∧
        a.dependencies d = .ok n.dependsOn) ∨
      ∃ cause, a.call d = (.error cause, a) := by
  cases hadd : a.add d with
  | ok b =>
    obtain ⟨n, hdraft, hdeps, rfl⟩ := add_eq_ok_iff.1 hadd
    exact Or.inl ⟨n, by rw [call, hadd], hdraft, hdeps⟩
  | error cause => exact Or.inr ⟨cause, by rw [call, hadd]⟩

/-- **A call keeps the dependencies worked out.** -/
theorem workedOut_call (h : WorkedOut a.nodes) (d : Draft) : WorkedOut (a.call d).2.nodes := by
  rcases call_cases a d with ⟨n, hcall, rfl, hdeps⟩ | ⟨cause, hcall⟩
  · rw [hcall]
    intro earlier m later heq
    rcases split_concat heq with ⟨rfl, rfl⟩ | ⟨later, heq⟩
    · exact hdeps
    · exact h earlier m later heq
  · rw [hcall]
    exact h

/-- **And so does a run of calls**, whichever of them are refused. -/
theorem workedOut_serve (h : WorkedOut a.nodes) (ds : List Draft) :
    WorkedOut (serve call a ds).2.nodes := by
  induction ds generalizing a with
  | nil => exact h
  | cons d ds ih => exact ih (workedOut_call h d)

/-- **A run adds the drafts that are not refused**, in their order. -/
theorem draft_of_serve (a : Assembly) (ds : List Draft) :
    (serve call a ds).2.nodes.map Node.draft =
      a.nodes.map Node.draft ++ acceptedOf ds (serve call a ds).1 := by
  induction ds generalizing a with
  | nil => simp [serve, acceptedOf]
  | cons d ds ih =>
    have hrest := ih (a.call d).2
    have hlast : (serve call a (d :: ds)).2 = (serve call (a.call d).2 ds).2 := rfl
    rw [hlast, hrest]
    rcases call_cases a d with ⟨n, hcall, rfl, -⟩ | ⟨cause, hcall⟩
    · simp [acceptedOf, serve, hcall, Except.isOk, Except.toBool]
    · simp [acceptedOf, serve, hcall, Except.isOk, Except.toBool]

/-- The id under a name is that of the resource last added under it. -/
theorem idOf?_append {x : String} :
    (⟨a.nodes ++ [n]⟩ : Assembly).idOf? x = if x = n.name then some n.id else a.idOf? x := by
  rw [idOf?, idOf?, List.reverse_append, List.reverse_singleton, List.singleton_append,
    List.find?_cons]
  by_cases hx : n.name = x
  · simp [hx]
  · simp [hx, Ne.symm hx]

/-! ## When the resources become a graph -/

/-- **A list is sound when its ids and names are distinct and its
dependencies are those that an assembly works out.** -/
theorem sound_iff_workedOut :
    Sound nodes ↔
      WorkedOut nodes ∧ (nodes.map Node.id).Nodup ∧ (nodes.map Node.name).Nodup := by
  -- the names before a resource are distinct when all are
  have hfront : ∀ {earlier n later}, nodes = earlier ++ n :: later →
      (nodes.map Node.name).Nodup → (earlier.map Node.name).Nodup := by
    rintro earlier n later rfl hnames
    rw [List.map_append] at hnames
    exact (List.nodup_append.1 hnames).1
  constructor
  · rintro ⟨hids, hnames, hresolved⟩
    refine ⟨fun earlier n later heq => ?_, hids, hnames⟩
    exact (dependencies_eq_ok_iff_resolves (hfront heq hnames)).2 (hresolved earlier n later heq)
  · rintro ⟨hworked, hids, hnames⟩
    refine ⟨hids, hnames, fun earlier n later heq => ?_⟩
    exact (dependencies_eq_ok_iff_resolves (hfront heq hnames)).1 (hworked earlier n later heq)

/-- **Resources whose dependencies are worked out are put together again**
from their drafts. -/
theorem serve_drafts (earlier later : List Node) (h : WorkedOut (earlier ++ later)) :
    serve call ⟨earlier⟩ (later.map Node.draft) =
      (List.replicate later.length (.ok ()), ⟨earlier ++ later⟩) := by
  induction later generalizing earlier with
  | nil => simp [serve]
  | cons n later ih =>
    have hdeps := h earlier n later rfl
    have hadd : (⟨earlier⟩ : Assembly).add n.draft = .ok ⟨earlier ++ [n]⟩ :=
      add_eq_ok_iff.2 ⟨n, rfl, hdeps, rfl⟩
    have hcall : (⟨earlier⟩ : Assembly).call n.draft = (.ok (), ⟨earlier ++ [n]⟩) := by
      rw [call, hadd]
    rw [List.append_cons] at h ⊢
    rw [List.map_cons, serve, hcall]
    simp only [ih _ h, List.length_cons, List.replicate_succ]

end Assembly

/-! ## A ledger of ids, written in place -/

/-- The resources added so far and the id last added under each name. -/
structure Ledger where
  nodes : List Node
  ids : Dict String

namespace Ledger

/-- Nothing added yet. -/
def empty : Ledger := ⟨[], Dict.empty⟩

/-- The id under a name, for a resource that refers to it. -/
def lookUp (ids : Dict String) (id name : String) : Except Fault String :=
  match ids.get? name with
  | some dependency => .ok dependency
  | none => .error (.graph (.earlyReference id name))

/-- Puts the ids under some names into a set, one after the other. -/
def collect (ids : Dict String) (id : String) : (found : TextSet) → List String →
    Except Fault TextSet
  | found, [] => .ok found
  | found, name :: names => do
    let dependency ← lookUp ids id name
    collect ids id (found.insert dependency) names

/-- Adds a resource: what is written stays written when a later step
fails. -/
def add (d : Draft) : ExceptT Fault (StateM Ledger) Unit := do
  let ledger ← get
  let dependsOn ← MonadExcept.ofExcept (collect ledger.ids d.id .empty d.references.toList)
  modify fun ledger => { ledger with ids := ledger.ids.insert d.name d.id }
  modify fun ledger =>
    { ledger with
      nodes := ledger.nodes ++ [⟨d.id, d.kind, d.name, d.properties, d.details, dependsOn⟩] }

/-- What is answered to a draft, and the ledger after it. -/
def call (l : Ledger) (d : Draft) : Except Fault Unit × Ledger := (add d).run.run l

/-- A ledger shows an assembly: it has its resources and finds under each
name the id that the assembly finds. -/
structure Shows (l : Ledger) (a : Assembly) : Prop where
  nodes : l.nodes = a.nodes
  ids : ∀ x, l.ids.get? x = a.idOf? x

/-- Whether a resource of the name was added. -/
def containsName (l : Ledger) (name : String) : Bool := (l.ids.get? name).isSome

variable {l : Ledger} {a : Assembly} {d : Draft}

/-- A ledger contains the names that the assembly does. -/
theorem Shows.containsName_eq (h : Shows l a) (x : String) :
    l.containsName x = a.containsName x := by
  rw [containsName, h.ids, Bool.eq_iff_iff, Assembly.idOf?_isSome, Assembly.containsName_iff]

/-- Texts that are put into a set one after the other. -/
theorem mem_foldl_insert {ids : List String} {found : TextSet} {i : String} :
    i ∈ ids.foldl (fun found id => found.insert id) found ↔ i ∈ found ∨ i ∈ ids := by
  induction ids generalizing found with
  | nil => simp
  | cons id ids ih =>
    rw [List.foldl_cons, ih, TextSet.mem_insert, List.mem_cons, or_assoc, or_left_comm]

/-- Names are looked up in order, and the first that has no id is refused. -/
theorem collect_eq (ids : Dict String) (id : String) (found : TextSet) (names : List String) :
    collect ids id found names = (names.mapM (lookUp ids id)).map
      (List.foldl (fun found dependency => found.insert dependency) found) := by
  induction names generalizing found with
  | nil => rfl
  | cons name names ih =>
    rw [collect, List.mapM_cons]
    cases lookUp ids id name with
    | error cause => rfl
    | ok dependency =>
      simp only [Fallible.ok_bind, ih]
      cases names.mapM (lookUp ids id) <;> rfl

/-- **A ledger works the same dependencies out** as the assembly that it
shows. -/
theorem Shows.collect_eq_dependencies (h : Shows l a) (d : Draft) :
    collect l.ids d.id .empty d.references.toList = a.dependencies d := by
  have hset : List.foldl (fun found dependency => found.insert dependency) TextSet.empty =
      TextSet.ofList := by
    funext ids
    refine TextSet.ext_mem fun i => ?_
    rw [mem_foldl_insert, TextSet.mem_ofList]
    simp
  have hlook : lookUp l.ids d.id = fun name =>
      match a.idOf? name with
      | some id => Except.ok id
      | none => .error (.graph (.earlyReference d.id name)) := by
    funext name
    rw [lookUp, h.ids]
  rw [collect_eq, hset, hlook]
  exact Fallible.map_eq_bind

/-- What a call writes, if anything. -/
theorem call_eq (l : Ledger) (d : Draft) :
    l.call d =
      match collect l.ids d.id .empty d.references.toList with
      | .ok dependsOn =>
        (.ok (), ⟨l.nodes ++ [⟨d.id, d.kind, d.name, d.properties, d.details, dependsOn⟩],
          l.ids.insert d.name d.id⟩)
      | .error cause => (.error cause, l) := by
  -- what is read of the ledger is the ledger the call starts from
  show StateT.run (ExceptT.run ((MonadExcept.ofExcept
    (collect l.ids d.id .empty d.references.toList) : ExceptT Fault (StateM Ledger) _) >>= _)) l = _
  cases collect l.ids d.id .empty d.references.toList <;> rfl

theorem shows_empty : Shows empty Assembly.empty := ⟨rfl, fun _ => rfl⟩

/-- **A ledger answers a call as the assembly does**, and shows it after
the call. -/
theorem call_shows (l : Ledger) (a : Assembly) (d : Draft) (h : Shows l a) :
    (l.call d).1 = (a.call d).1 ∧ Shows (l.call d).2 (a.call d).2 := by
  rw [call_eq, h.collect_eq_dependencies, Assembly.call, Assembly.add]
  cases a.dependencies d with
  | error cause => exact ⟨rfl, h⟩
  | ok dependsOn =>
    refine ⟨rfl, congrArg (· ++ _) h.nodes, fun x => ?_⟩
    let n : Node := ⟨d.id, d.kind, d.name, d.properties, d.details, dependsOn⟩
    have hassembly : (⟨a.nodes ++ [n]⟩ : Assembly).idOf? x =
        if x = d.name then some d.id else a.idOf? x := Assembly.idOf?_append
    have hledger := Dict.get?_insert l.ids d.name x d.id
    rw [h.ids] at hledger
    exact hledger.trans hassembly.symm

/-- **A refused call leaves the ledger as it was.** -/
theorem call_of_error {cause : Fault} (h : (l.call d).1 = .error cause) : (l.call d).2 = l := by
  rw [call_eq] at h ⊢
  cases hdeps : collect l.ids d.id .empty d.references.toList with
  | ok dependsOn =>
    rw [hdeps] at h
    cases h
  | error cause => rfl

end Ledger

namespace Assembly

open ClusterBlueprint.Graph

/-- **Runs of calls.** For every sequence of drafts: a refused call changes
no other answer and not the last assembly; the resources are those of the
drafts that were not refused, in order, and their names are the ones the
assembly contains; they become a graph when their ids and names are
distinct; and a ledger that is written in place gives the same answers. A
refused call leaves any ledger as it was. The resources of every graph,
called as drafts, are put together again. -/
theorem calls_exact :
    (∀ ds : List Draft,
      (∀ before d later cause, ds = before ++ d :: later →
        ((after before).call d).1 = .error cause →
        after ds = after (before ++ later) ∧
        ∃ rest, answers (before ++ later) = answers before ++ rest ∧
          answers ds = answers before ++ .error cause :: rest) ∧
      (after ds).nodes.map Node.draft = accepted ds ∧
      (∀ x, (after ds).containsName x = true ↔ ∃ d ∈ accepted ds, d.name = x) ∧
      ((∃ g, (after ds).finish = .ok g) ↔
        ((accepted ds).map Draft.id).Nodup ∧ ((accepted ds).map Draft.name).Nodup) ∧
      (∀ g, (after ds).finish = .ok g → g.nodes.map Node.draft = accepted ds) ∧
      ∃ l, serve Ledger.call .empty ds = (answers ds, l) ∧ l.nodes = (after ds).nodes ∧
        ∀ x, l.containsName x = (after ds).containsName x) ∧
    (∀ (l : Ledger) (d : Draft) cause, (l.call d).1 = .error cause → (l.call d).2 = l) ∧
    ∀ nodes g, Graph.ofNodes nodes = .ok g →
      answers (nodes.map Node.draft) = List.replicate nodes.length (.ok ()) ∧
      after (nodes.map Node.draft) = ⟨nodes⟩ ∧ (after (nodes.map Node.draft)).finish = .ok g := by
  refine ⟨fun ds => ?_, fun l d cause => Ledger.call_of_error, fun nodes g hg => ?_⟩
  · have hdrafts : (after ds).nodes.map Node.draft = accepted ds := draft_of_serve empty ds
    have hids : (after ds).nodes.map Node.id = (accepted ds).map Draft.id := by
      rw [← hdrafts, List.map_map]
      rfl
    have hnames : (after ds).nodes.map Node.name = (accepted ds).map Draft.name := by
      rw [← hdrafts, List.map_map]
      rfl
    refine ⟨?_, hdrafts, fun x => ?_, ?_, fun g hg => ?_, ?_⟩
    · rintro before d later cause rfl hrefused
      have hcall : (after before).call d = (.error cause, after before) :=
        (call_of_error hrefused)
      refine ⟨?_, (serve call (after before) later).1, ?_, ?_⟩
      · rw [after, after, serve_append, serve_append, serve_cons, ← after, hcall]
      · rw [answers, serve_append]
        rfl
      · rw [answers, serve_append, serve_cons, ← after, hcall]
        rfl
    · rw [containsName_iff, hnames, List.mem_map]
    · have hworked : WorkedOut (after ds).nodes :=
        workedOut_serve (fun _ _ _ h => by simp [empty] at h) ds
      rw [← hids, ← hnames]
      constructor
      · rintro ⟨g, hg⟩
        have hsound : Sound g.nodes := sound_nodes g
        rw [nodes_of_ofNodes hg] at hsound
        exact ⟨hsound.ids, hsound.names⟩
      · rintro ⟨hids, hnames⟩
        obtain ⟨g, hg, -⟩ := ofNodes_of_sound (sound_iff_workedOut.2 ⟨hworked, hids, hnames⟩)
        exact ⟨g, hg⟩
    · rw [nodes_of_ofNodes hg]
      exact hdrafts
    · obtain ⟨hanswers, hshows⟩ := serve_simulates Ledger.call_shows Ledger.shows_empty ds
      exact ⟨_, Prod.ext hanswers rfl, hshows.nodes, hshows.containsName_eq⟩
  · have hsound : Sound nodes := nodes_of_ofNodes hg ▸ sound_nodes g
    have hserve := serve_drafts [] nodes (sound_iff_workedOut.1 hsound).1
    have hafter : after (nodes.map Node.draft) = ⟨nodes⟩ := congrArg Prod.snd hserve
    exact ⟨congrArg Prod.fst hserve, hafter, hafter ▸ hg⟩

end Assembly

end ClusterBlueprint
