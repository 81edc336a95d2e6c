import ClusterBlueprint.Ordered.TextSet
/-!
# Ordered — dictionaries with text keys

Tags, connection details and the fields of a JSON object are bindings of
texts, shown in ascending order of their keys. The operations here are on
the list of bindings: `put` writes a binding in its place and replaces the
one of the same key, `find?` reads the first binding of a key. A `Dict` is
such a list that is strictly ascending.
-/

namespace ClusterBlueprint

namespace Bindings

variable {α : Type}

/-- Writes a binding into an ascending list, in place of the one that has
the same key. -/
def put (key : String) (value : α) : List (String × α) → List (String × α)
  | [] => [(key, value)]
  | (k, v) :: rest =>
    if key < k then (key, value) :: (k, v) :: rest
    else if key = k then (key, value) :: rest
    else (k, v) :: put key value rest

/-- The value of the first binding of a key. -/
def find? (key : String) : List (String × α) → Option α
  | [] => none
  | (k, v) :: rest => if k = key then some v else find? key rest

/-- Writes the bindings of the second list over those of the first, one
after the other. -/
def putAll (base new : List (String × α)) : List (String × α) :=
  new.foldl (fun acc (k, v) => put k v acc) base

/-- The list of bindings in ascending order; of two with one key the later
stays. -/
def ofList (bindings : List (String × α)) : List (String × α) := putAll [] bindings

/-- A written key has the written value, every other key what it had. -/
theorem find?_put (key k : String) (value : α) (bs : List (String × α)) :
    find? k (put key value bs) = if k = key then some value else find? k bs := by
  induction bs with
  | nil => simp [put, find?, eq_comm]
  | cons b bs ih =>
    obtain ⟨k', v'⟩ := b
    simp only [put]
    split
    · simp [find?, eq_comm]
    · split
      · next h =>
        subst h
        by_cases hk : key = k
        · simp [find?, hk]
        · simp [find?, hk, Ne.symm hk]
      · next h =>
        simp only [find?, ih]
        by_cases hk' : k' = k
        · subst hk'; simp [Ne.symm h]
        · simp [hk']

/-- The keys after a write are the old ones and the written one. -/
theorem mem_keys_put {key k : String} {value : α} {bs : List (String × α)} :
    k ∈ (put key value bs).map Prod.fst ↔ k = key ∨ k ∈ bs.map Prod.fst := by
  induction bs with
  | nil => simp [put]
  | cons b bs ih =>
    obtain ⟨k', v'⟩ := b
    simp only [put]
    split
    · simp
    · split
      · next h => subst h; simp
      · rw [List.map_cons, List.mem_cons, ih, List.map_cons, List.mem_cons]
        exact or_left_comm

/-- A write keeps the keys strictly ascending. -/
theorem pairwise_put {key : String} {value : α} {bs : List (String × α)}
    (h : bs.Pairwise (·.1 < ·.1)) : (put key value bs).Pairwise (·.1 < ·.1) := by
  induction bs with
  | nil => simp [put]
  | cons b bs ih =>
    obtain ⟨k', v'⟩ := b
    obtain ⟨hb, hbs⟩ := List.pairwise_cons.1 h
    simp only [put]
    split
    · next hlt =>
      refine List.pairwise_cons.2 ⟨fun z hz => ?_, h⟩
      rcases List.mem_cons.1 hz with rfl | hz
      · exact hlt
      · exact String.lt_trans hlt (hb z hz)
    · split
      · next heq => subst heq; exact List.pairwise_cons.2 ⟨hb, hbs⟩
      · next hnlt hne =>
        refine List.pairwise_cons.2 ⟨fun z hz => ?_, ih hbs⟩
        have hk : z.1 ∈ (put key value bs).map Prod.fst := List.mem_map_of_mem hz
        rcases mem_keys_put.1 hk with hz1 | hz1
        · exact hz1 ▸ TextSet.lt_of_not_lt_of_ne hnlt hne
        · obtain ⟨w, hw, hwz⟩ := List.mem_map.1 hz1
          exact hwz ▸ hb w hw

/-- Writing many bindings keeps the keys strictly ascending. -/
theorem pairwise_putAll {base new : List (String × α)} (h : base.Pairwise (·.1 < ·.1)) :
    (putAll base new).Pairwise (·.1 < ·.1) := by
  induction new generalizing base with
  | nil => exact h
  | cons b new ih => exact ih (pairwise_put h)

/-- A key that no binding has is not found. -/
theorem find?_eq_none {k : String} {bs : List (String × α)} (h : ∀ b ∈ bs, b.1 ≠ k) :
    find? k bs = none := by
  induction bs with
  | nil => rfl
  | cons b bs ih =>
    rw [find?, if_neg (h b List.mem_cons_self)]
    exact ih fun c hc => h c (List.mem_cons_of_mem _ hc)

/-- A key is found where some binding has it. -/
theorem isSome_find? {k : String} {bs : List (String × α)} :
    (find? k bs).isSome ↔ k ∈ bs.map Prod.fst := by
  induction bs with
  | nil => simp [find?]
  | cons b bs ih =>
    rw [find?, List.map_cons, List.mem_cons]
    by_cases hk : b.1 = k
    · simp [hk]
    · simp [hk, Ne.symm hk, ih]

/-- A value that is found is bound to the key. -/
theorem mem_of_find? {k : String} {v : α} {bs : List (String × α)} (h : find? k bs = some v) :
    (k, v) ∈ bs := by
  induction bs with
  | nil => cases h
  | cons b bs ih =>
    obtain ⟨key, value⟩ := b
    rw [find?] at h
    split at h
    · next hk =>
      obtain rfl := Option.some.inj h
      exact hk ▸ List.mem_cons_self
    · exact List.mem_cons_of_mem _ (ih h)

/-- Where each key is bound once, every binding is found. -/
theorem find?_of_mem {k : String} {v : α} {bs : List (String × α)}
    (hkeys : (bs.map Prod.fst).Nodup) (h : (k, v) ∈ bs) : find? k bs = some v := by
  induction bs with
  | nil => cases h
  | cons b bs ih =>
    obtain ⟨hfirst, hrest⟩ := List.nodup_cons.1 hkeys
    rw [find?]
    rcases List.mem_cons.1 h with rfl | h
    · exact if_pos rfl
    · have hne : b.1 ≠ k := fun heq => hfirst (heq ▸ List.mem_map_of_mem h)
      rw [if_neg hne, ih hrest h]

/-- A function of the values is one of the value that is found. -/
theorem find?_map {β : Type} (f : α → β) (k : String) (bs : List (String × α)) :
    find? k (bs.map fun (key, value) => (key, f value)) = (find? k bs).map f := by
  induction bs with
  | nil => rfl
  | cons b bs ih =>
    rw [List.map_cons, find?, find?, ih]
    split <;> rfl

/-- What ascending bindings are written over is read where they bind
nothing. -/
theorem find?_putAll {k : String} {base new : List (String × α)} (h : new.Pairwise (·.1 < ·.1)) :
    find? k (putAll base new) = (find? k new).or (find? k base) := by
  induction new generalizing base with
  | nil => rfl
  | cons b new ih =>
    obtain ⟨key, value⟩ := b
    obtain ⟨hfirst, hrest⟩ := List.pairwise_cons.1 h
    have hwrite : putAll base ((key, value) :: new) = putAll (put key value base) new := rfl
    rw [hwrite, ih hrest, find?_put, find?]
    by_cases hk : key = k
    -- the keys that follow are greater, so none of them writes over this one
    · subst hk
      have hlater : find? key new = none :=
        find?_eq_none fun c hc heq => String.lt_irrefl key (heq ▸ hfirst c hc)
      rw [if_pos rfl, if_pos rfl, hlater]
      rfl
    · rw [if_neg (Ne.symm hk), if_neg hk]

/-- A key greater than all others is written at the end. -/
theorem put_of_forall_lt {key : String} {value : α} {bs : List (String × α)}
    (h : ∀ b ∈ bs, b.1 < key) : put key value bs = bs ++ [(key, value)] := by
  induction bs with
  | nil => rfl
  | cons b bs ih =>
    obtain ⟨k, v⟩ := b
    have hk : k < key := h (k, v) List.mem_cons_self
    have hne : key ≠ k := fun heq => String.lt_irrefl k (heq ▸ hk)
    rw [put, if_neg (String.lt_asymm hk), if_neg hne, ih fun c hc => h c (List.mem_cons_of_mem _ hc)]
    rfl

/-- Bindings that ascend from those before them are written one behind the
other. -/
theorem putAll_eq_append {base new : List (String × α)}
    (h : (base ++ new).Pairwise (·.1 < ·.1)) : putAll base new = base ++ new := by
  induction new generalizing base with
  | nil => rw [List.append_nil]; rfl
  | cons b new ih =>
    obtain ⟨key, value⟩ := b
    have hlast : ∀ c ∈ base, c.1 < key := fun c hc =>
      (List.pairwise_append.1 h).2.2 c hc (key, value) List.mem_cons_self
    have hsplit : base ++ (key, value) :: new = (base ++ [(key, value)]) ++ new := by simp
    have hwrite : putAll base ((key, value) :: new) = putAll (put key value base) new := rfl
    rw [hsplit] at h ⊢
    rw [hwrite, put_of_forall_lt hlast, ih h]

end Bindings

/-- A dictionary with text keys, as its list of bindings in strictly
ascending order of the keys. -/
structure Dict (α : Type) where
  bindings : List (String × α)
  ascending : bindings.Pairwise (·.1 < ·.1)
deriving DecidableEq

namespace Dict

variable {α : Type}

/-- The dictionary without bindings. -/
def empty : Dict α := ⟨[], .nil⟩

/-- Whether no key is bound. -/
def isEmpty (d : Dict α) : Bool := d.bindings.isEmpty

/-- The value of a key. -/
def get? (d : Dict α) (key : String) : Option α := Bindings.find? key d.bindings

/-- The keys, ascending. -/
def keys (d : Dict α) : List String := d.bindings.map Prod.fst

/-- The dictionary with one binding written. -/
def insert (d : Dict α) (key : String) (value : α) : Dict α :=
  ⟨Bindings.put key value d.bindings, Bindings.pairwise_put d.ascending⟩

/-- The dictionary of a list of bindings; of two with one key the later
stays. -/
def ofList (bindings : List (String × α)) : Dict α :=
  ⟨Bindings.ofList bindings, Bindings.pairwise_putAll .nil⟩

/-- The bindings of both; where both bind a key, the second one's. -/
def merge (d new : Dict α) : Dict α :=
  ⟨Bindings.putAll d.bindings new.bindings, Bindings.pairwise_putAll d.ascending⟩

/-- **Read after write.** -/
theorem get?_insert (d : Dict α) (key k : String) (value : α) :
    (d.insert key value).get? k = if k = key then some value else d.get? k :=
  Bindings.find?_put key k value d.bindings

/-- **Read after merge.** -/
theorem get?_merge (d new : Dict α) (k : String) :
    (d.merge new).get? k = (new.get? k).or (d.get? k) :=
  Bindings.find?_putAll new.ascending

/-- **A dictionary is the one of its bindings.** -/
theorem ofList_bindings (d : Dict α) : ofList d.bindings = d := by
  obtain ⟨bs, hbs⟩ := d
  have hwritten : Bindings.ofList bs = bs := Bindings.putAll_eq_append hbs
  simp only [ofList, hwritten]

end Dict

end ClusterBlueprint
