import ClusterBlueprint.Json.Record
import ClusterBlueprint.Proofs.Fallible
/-!
# Json — what is written is read back

A record's document is written value by value, and each reader gives back
the value that was written: counts that are in range, lists whose items are
read back, and dictionaries. Some readers take more than what is written,
and for texts, names, lists and dictionaries this file says what.
-/

namespace ClusterBlueprint

namespace Json

variable {α : Type}

/-- A count in range is read back. -/
theorem count?_nat {n : Nat} (h : n < 2 ^ 64) : (nat n).count? = some n := by
  have hrange : (0 : Int) ≤ n ∧ (n : Int) < 2 ^ 64 := by omega
  simp only [nat, count?, if_pos hrange, Int.toNat_natCast]

/-- What is read as a count is in range. -/
theorem lt_of_count? {doc : Json} {n : Nat} (h : doc.count? = some n) : n < 2 ^ 64 := by
  cases doc with
  | integer m =>
    rw [count?] at h
    split at h
    · next hrange =>
      obtain rfl : m.toNat = n := Option.some.inj h
      omega
    · cases h
  | _ => cases h

/-- And so is a count below a bound. -/
theorem countBelow?_nat {bound n : Nat} (h : n < bound) (hbound : bound ≤ 2 ^ 64) :
    countBelow? bound (nat n) = some n := by
  rw [countBelow?, count?_nat (Nat.lt_of_lt_of_le h hbound), Option.filter_some,
    if_pos (decide_eq_true h)]

/-- **A list is read back when its items are.** -/
theorem list?_map {value? : Json → Option α} {toJson : α → Json}
    (h : ∀ a, value? (toJson a) = some a) (as : List α) :
    list? value? (.array (as.map toJson)) = some as :=
  Fallible.mapM_map_eq_pure h as

/-! ## What is read -/

theorem text?_eq_some_iff {doc : Json} {s : String} : doc.text? = some s ↔ doc = .text s := by
  constructor
  · intro h
    cases doc with
    | text t => exact congrArg text (Option.some.inj h)
    | _ => cases h
  · rintro rfl
    rfl

/-- A name is a text, or the only key of an object, with no value. -/
theorem name?_eq_some_iff {doc : Json} {s : String} :
    doc.name? = some s ↔ doc = .text s ∨ doc = .object [(s, .null)] := by
  constructor
  · intro h
    unfold name? at h
    split at h
    · exact Or.inl (congrArg text (Option.some.inj h))
    · rw [Option.some.inj h]
      exact Or.inr rfl
    · cases h
  · rintro (rfl | rfl)
    · rfl
    · rfl

theorem required?_eq_some_iff {value? : Json → Option α} {fields : List (String × Json)}
    {key : String} {a : α} :
    required? value? fields key = some a ↔
      ∃ doc, Bindings.find? key fields = some doc ∧ value? doc = some a :=
  Option.bind_eq_some_iff

/-- **A list is read item by item.** -/
theorem list?_eq_some_iff {value? : Json → Option α} {doc : Json} {as : List α} :
    list? value? doc = some as ↔
      ∃ docs, doc = .array docs ∧ List.Forall₂ (fun d a => value? d = some a) docs as := by
  constructor
  · intro h
    obtain ⟨docs, hdocs, has⟩ := Option.bind_eq_some_iff.1 h
    refine ⟨docs, ?_, Fallible.mapM_eq_some_iff.1 has⟩
    cases doc with
    | array items => exact congrArg array (Option.some.inj hdocs)
    | _ => cases hdocs
  · rintro ⟨docs, rfl, has⟩
    exact Fallible.mapM_eq_some_iff.2 has

/-- A list of texts is read from what it is written as. -/
theorem list?_text?_eq_some_iff {doc : Json} {ss : List String} :
    list? text? doc = some ss ↔ doc = .texts ss := by
  simp only [list?_eq_some_iff, ← Fallible.mapM_eq_some_iff,
    Fallible.mapM_eq_some_iff_map fun _ _ => text?_eq_some_iff]
  constructor
  · rintro ⟨docs, rfl, rfl⟩
    rfl
  · rintro rfl
    exact ⟨_, rfl, rfl⟩

theorem dictBinding?_eq_some_iff {field : String × Json} {binding : String × String} :
    dictBinding? field = some binding ↔ field = (binding.1, .text binding.2) := by
  obtain ⟨key, value⟩ := field
  obtain ⟨k, s⟩ := binding
  rw [dictBinding?, Option.map_eq_some_iff]
  simp only [text?_eq_some_iff, Prod.mk.injEq]
  constructor
  · rintro ⟨t, ht, rfl, rfl⟩
    exact ⟨rfl, ht⟩
  · rintro ⟨rfl, hs⟩
    exact ⟨s, hs, rfl, rfl⟩

/-- **A dictionary is read from an object of texts**, in any order; of two
fields with one key the later counts. -/
theorem dict?_eq_some_iff {doc : Json} {d : Dict String} :
    doc.dict? = some d ↔
      ∃ bindings : List (String × String),
        doc = .object (bindings.map fun b => (b.1, .text b.2)) ∧ Dict.ofList bindings = d := by
  constructor
  · intro h
    obtain ⟨fields, hfields, hrest⟩ := Option.bind_eq_some_iff.1 h
    obtain ⟨bindings, hbindings, hd⟩ := Option.bind_eq_some_iff.1 hrest
    rw [Fallible.mapM_eq_some_iff_map fun _ _ => dictBinding?_eq_some_iff] at hbindings
    refine ⟨bindings, ?_, Option.some.inj hd⟩
    cases doc with
    | object fs => exact congrArg object ((Option.some.inj hfields).trans hbindings)
    | _ => cases hfields
  · rintro ⟨bindings, rfl, rfl⟩
    have hbindings : (bindings.map fun b => (b.1, text b.2)).mapM dictBinding? = some bindings :=
      (Fallible.mapM_eq_some_iff_map fun _ _ => dictBinding?_eq_some_iff).2 rfl
    rw [dict?, fields?, Option.bind_eq_bind, Option.bind_some, hbindings]
    rfl

/-- **A dictionary is read back.** -/
theorem dict?_ofDict (d : Dict String) : (ofDict d).dict? = some d :=
  dict?_eq_some_iff.2 ⟨d.bindings, rfl, d.ofList_bindings⟩

end Json

end ClusterBlueprint
