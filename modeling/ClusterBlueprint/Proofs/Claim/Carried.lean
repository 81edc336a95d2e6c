import ClusterBlueprint.Proofs.Claim.Fields
import ClusterBlueprint.Proofs.Text.Trim
import Mathlib.Logic.Function.Basic
/-!
# Claim — a password carried in a claim

A password is handed back by writing it into the claim. The claim is then
read to the same spec, with the password in it (`ofClaim_put`): no other
field is looked up under the name of the password, a password that passes
its rule has no blanks that reading would take off, and the rules that the
spec passed do not look at the password. Whatever the claim was, the spec it
has after that carries this password and no other
(`masterPassword_of_put`).
-/

namespace ClusterBlueprint

/-! ## Passwords keep their ends -/

namespace Rules

/-- Characters of passwords leave a mark. -/
theorem isGraphic_of_isPasswordChar {c : Char} (h : isPasswordChar c = true) :
    Text.isGraphic c = true := by
  simp only [isPasswordChar, Bool.and_eq_true, decide_eq_true_eq] at h
  obtain ⟨⟨⟨⟨hlow, hhigh⟩, -⟩, -⟩, -⟩ := h
  simp only [Text.isGraphic, Bool.and_eq_true, decide_eq_true_eq]
  exact ⟨UInt32.le_iff_toNat_le.1 hlow, UInt32.le_iff_toNat_le.1 hhigh⟩

/-- **A password that passes is read as it stands.** -/
theorem trim_of_checkPassword {password : String} (h : checkPassword password = .ok ()) :
    Text.trim password = password := by
  obtain ⟨_, -, hchars⟩ := Fallible.bind_eq_ok.1 h
  have hall := List.all_eq_true.1 (require_eq_ok_iff.1 hchars)
  exact Text.trim_eq_self fun c hc => isGraphic_of_isPasswordChar (hall c hc)

end Rules

/-! ## Fields of a claim with a password -/

/-- What is written twice is written once. -/
theorem Bindings.put_put {α : Type} (key : String) (value : α) (bs : List (String × α)) :
    put key value (put key value bs) = put key value bs := by
  induction bs with
  | nil => simp [put]
  | cons b bs ih =>
    obtain ⟨k, v⟩ := b
    by_cases hlt : key < k
    · simp only [put, if_pos hlt, lt_irrefl, if_false, if_true]
    · by_cases heq : key = k
      · simp only [put, if_neg hlt, if_pos heq, lt_irrefl, if_false, if_true]
      · simp only [put, if_neg hlt, if_neg heq, ih]

/-- And so for the fields of an object. -/
theorem Json.put_put (doc : Json) (key : String) (value : Json) :
    (doc.put key value).put key value = doc.put key value := by
  cases doc with
  | object fields => exact congrArg Json.object (Bindings.put_put key value fields)
  | _ => rfl

namespace Field

variable {f : Field} {claim : List (String × Json)} {password : String}

/-- The fields of a claim with a password written into it. -/
def carrying (password : String) (claim : List (String × Json)) : List (String × Json) :=
  Bindings.put "masterPassword" (.text password) claim

/-- No other field has the spelling of the password. -/
theorem masterPassword_not_mem_spellings (h : f ≠ .masterPassword) :
    "masterPassword" ∉ f.spellings := by
  cases f <;> first | exact absurd rfl h | decide

/-- **The claims say the same about every other field.** -/
theorem agree_carrying (h : f ≠ .masterPassword) : f.Agree claim (carrying password claim) := by
  intro key hkey
  have hne : key ≠ "masterPassword" := fun heq => masterPassword_not_mem_spellings h (heq ▸ hkey)
  rw [carrying, Bindings.find?_put, if_neg hne]

/-- The password is read as it was written. -/
theorem value_carrying (h : Rules.checkPassword password = .ok ()) :
    Field.masterPassword.value (carrying password claim) = .ok (some password) := by
  have hlookup : Field.masterPassword.lookup (carrying password claim) = some (.text password) := by
    simp [lookup, spellings, name, aliases, carrying, Bindings.find?_put, Json.isNull]
  exact readText_of_lookup (s := some password) hlookup fun _ ht =>
    Option.some.inj ht ▸ Rules.trim_of_checkPassword h

end Field

/-! ## The spec of a claim with a password -/

namespace Spec

variable {password : String}

/-- **The fields of a claim with a password are read to the spec with the
password.** -/
theorem ofFields_carrying {claim : List (String × Json)} {spec : Spec}
    (h : Rules.checkPassword password = .ok ()) (hspec : ofFields claim = .ok spec) :
    ofFields (Field.carrying password claim) =
      .ok { spec with masterPassword := some password } := by
  obtain ⟨v, hv, rfl⟩ := exists_values hspec
  have hvalues : ∀ f : Field, f.value (Field.carrying password claim) =
      .ok (Function.update v .masterPassword (some password) f) := by
    intro f
    by_cases hf : f = .masterPassword
    · subst hf
      rw [Function.update_self]
      exact Field.value_carrying h
    · rw [Function.update_of_ne hf, Field.value_congr (Field.agree_carrying hf)]
      exact hv f
  rw [ofFields_of_values hvalues]
  rfl

/-- **A claim that has a spec has it with a password written into it.** -/
theorem ofClaim_put {claim : Json} {spec : Spec} (hspec : ofClaim claim = .ok spec)
    (h : Rules.checkPassword password = .ok ()) :
    ofClaim (claim.put "masterPassword" (.text password)) =
      .ok { spec with masterPassword := some password } := by
  cases claim with
  | object fields =>
    obtain ⟨hfields, hcheck⟩ := ofClaim_object_eq_ok_iff.1 hspec
    exact ofClaim_object_eq_ok_iff.2 ⟨ofFields_carrying h hfields, check_password hcheck h⟩
  | _ => nomatch hspec

/-- **A claim with a password written into it has that password in its
spec.** Writing it once more changes nothing, and gives the spec the
password. -/
theorem masterPassword_of_put {claim : Json} {spec : Spec}
    (h : Rules.checkPassword password = .ok ())
    (hspec : ofClaim (claim.put "masterPassword" (.text password)) = .ok spec) :
    spec.masterPassword = some password := by
  have hagain := ofClaim_put hspec h
  rw [Json.put_put, hspec] at hagain
  exact congrArg masterPassword (Except.ok.inj hagain)

end Spec

end ClusterBlueprint
