import ClusterBlueprint.Config
import ClusterBlueprint.Password
import ClusterBlueprint.Proofs.Claim.Carried
import ClusterBlueprint.Proofs.Claim.Defaults
import ClusterBlueprint.Proofs.Naming.Label
/-!
# Password — what a fresh password holds

A fresh password is drawn character by character, each from its source, and
then shuffled. Whatever words it is drawn from, it is a rearrangement of one
item of each source (`exists_drawn_of_fresh`): an exchange of two places
rearranges, so a run of them does. What the password holds is then read off
the sources. There are as many as it has characters, the classes are among
them when there is room, and all of them are parts of the alphabet, whose
characters the rule for passwords permits.
-/

namespace ClusterBlueprint

/-! ## Draws -/

namespace Choice

variable {α β : Type} {words rest : List UInt64}

/-- **Two draws succeed when the first does, and the second with the words
that are left.** -/
theorem run_bind_eq_some {x : Draws α} {f : α → Draws β} {b : β} :
    (x >>= f).run words = some (b, rest) ↔
      ∃ a left, x.run words = some (a, left) ∧ (f a).run left = some (b, rest) := by
  rw [StateT.run_bind, Option.bind_eq_bind, Option.bind_eq_some_iff, Prod.exists]

theorem run_pure_eq_some {a b : α} :
    (pure a : Draws α).run words = some (b, rest) ↔ a = b ∧ words = rest := by
  rw [StateT.run_pure, Option.pure_def, Option.some_inj, Prod.mk.injEq]

/-- What is drawn from a list is on it. -/
theorem mem_of_item {items : List Char} {c : Char}
    (h : (item items).run words = some (c, rest)) : c ∈ items := by
  obtain ⟨i, left, -, h⟩ := run_bind_eq_some.1 h
  cases hitem : items[i]? with
  | none =>
    rw [hitem] at h
    nomatch h
  | some d =>
    rw [hitem] at h
    obtain ⟨rfl, -⟩ := run_pure_eq_some.1 h
    exact List.mem_of_getElem? hitem

/-- Draws one after the other give a value each. -/
theorem forall₂_of_mapM {R : α → β → Prop} {f : α → Draws β}
    (hf : ∀ {a b words rest}, (f a).run words = some (b, rest) → R a b) {as : List α} {bs : List β}
    (h : (as.mapM f).run words = some (bs, rest)) : List.Forall₂ R as bs := by
  induction as generalizing bs words with
  | nil =>
    rw [List.mapM_nil] at h
    obtain ⟨rfl, -⟩ := run_pure_eq_some.1 h
    exact .nil
  | cons a as ih =>
    rw [List.mapM_cons] at h
    obtain ⟨b, left, hb, h⟩ := run_bind_eq_some.1 h
    obtain ⟨bs', left', hbs, h⟩ := run_bind_eq_some.1 h
    obtain ⟨rfl, rfl⟩ := run_pure_eq_some.1 h
    exact .cons (hf hb) (ih hbs)

/-- An exchange of two places rearranges. -/
theorem perm_of_exchange {cs exchanged : Array Char} {i j : Nat}
    (h : (exchange cs i j).run words = some (exchanged, rest)) :
    exchanged.toList.Perm cs.toList := by
  unfold exchange at h
  split at h
  · obtain ⟨rfl, -⟩ := run_pure_eq_some.1 h
    exact (Array.swap_perm _ _).toList
  · cases h

/-- So the exchanges of a shuffle do, whichever places are drawn. -/
theorem perm_of_shuffleFrom {i : Nat} {cs shuffled : Array Char}
    (h : (shuffleFrom i cs).run words = some (shuffled, rest)) :
    shuffled.toList.Perm cs.toList := by
  induction i generalizing cs words with
  | zero =>
    obtain ⟨rfl, -⟩ := run_pure_eq_some.1 h
    exact .refl _
  | succ i ih =>
    obtain ⟨j, left, -, h⟩ := run_bind_eq_some.1 h
    obtain ⟨exchanged, left', hexchanged, h⟩ := run_bind_eq_some.1 h
    exact (ih h).trans (perm_of_exchange hexchanged)

/-- **A shuffle rearranges.** -/
theorem perm_of_shuffle {cs shuffled : Array Char}
    (h : (shuffle cs).run words = some (shuffled, rest)) : shuffled.toList.Perm cs.toList :=
  perm_of_shuffleFrom h

end Choice

/-! ## What a password is drawn from -/

namespace Password

variable {n : Nat} {items : List Char} {c : Char}

/-- There is one source for each character. -/
theorem length_sources (n : Nat) : (sources n).length = n := by
  rw [sources, List.length_append, List.length_take, List.length_replicate]
  omega

/-- The sources are parts of the alphabet. -/
theorem mem_alphabet_of_mem_sources (hitems : items ∈ sources n) (hc : c ∈ items) :
    c ∈ alphabet := by
  rcases List.mem_append.1 hitems with hclass | hall
  · exact List.mem_flatten.2 ⟨items, List.mem_of_mem_take hclass, hc⟩
  · exact List.eq_of_mem_replicate hall ▸ hc

/-- With four characters or more, each class is a source. -/
theorem mem_sources_of_mem_classes (hn : classes.length ≤ n) (hitems : items ∈ classes) :
    items ∈ sources n := by
  rw [sources, List.take_of_length_le hn]
  exact List.mem_append_left _ hitems

theorem isLower_of_mem_lower (hc : c ∈ lower) : c.isLower = true :=
  List.all_eq_true.1 (rfl : lower.all Char.isLower = true) c hc

theorem isUpper_of_mem_upper (hc : c ∈ upper) : c.isUpper = true :=
  List.all_eq_true.1 (rfl : upper.all Char.isUpper = true) c hc

theorem isDigit_of_mem_digits (hc : c ∈ digits) : c.isDigit = true :=
  List.all_eq_true.1 (rfl : digits.all Char.isDigit = true) c hc

/-- A special character: one of those that the provider takes beside letters
and digits. -/
def IsSpecial (c : Char) : Prop := c ∈ "!#$%&*()-_=+[]\x7b\x7d<>:?".toList

theorem mem_specials_iff : c ∈ specials ↔ IsSpecial c := Iff.rfl

/-- The alphabet has letters, digits and the special characters. -/
theorem of_mem_alphabet (hc : c ∈ alphabet) :
    c.isLower = true ∨ c.isUpper = true ∨ c.isDigit = true ∨ IsSpecial c := by
  simp only [alphabet, classes, List.flatten_cons, List.flatten_nil, List.append_nil,
    List.mem_append, mem_specials_iff] at hc
  exact hc.imp isLower_of_mem_lower (.imp isUpper_of_mem_upper (.imp_left isDigit_of_mem_digits))

/-- **The rule for passwords permits every character of the alphabet.** -/
theorem isPasswordChar_of_mem_alphabet (hc : c ∈ alphabet) : Rules.isPasswordChar c = true :=
  List.all_eq_true.1 (rfl : alphabet.all Rules.isPasswordChar = true) c hc

/-- And so each of them takes one byte. -/
theorem utf8Size_of_mem_alphabet (hc : c ∈ alphabet) : c.utf8Size = 1 :=
  Naming.utf8Size_of_isGraphic
    (Rules.isGraphic_of_isPasswordChar (isPasswordChar_of_mem_alphabet hc))

variable {words rest : List UInt64} {password : String}

/-- **A fresh password is one item of each source, in some order.** -/
theorem exists_drawn_of_fresh (h : (fresh n).run words = some (password, rest)) :
    ∃ drawn, List.Forall₂ (fun items c => c ∈ items) (sources n) drawn ∧
      password.toList.Perm drawn := by
  obtain ⟨drawn, left, hdrawn, h⟩ := Choice.run_bind_eq_some.1 h
  obtain ⟨shuffled, left', hshuffled, h⟩ := Choice.run_bind_eq_some.1 h
  obtain ⟨rfl, -⟩ := Choice.run_pure_eq_some.1 h
  refine ⟨drawn, Choice.forall₂_of_mapM Choice.mem_of_item hdrawn, ?_⟩
  rw [String.toList_ofList]
  exact Choice.perm_of_shuffle hshuffled

/-- It has the length that was asked for. -/
theorem length_of_fresh (h : (fresh n).run words = some (password, rest)) :
    password.length = n := by
  obtain ⟨drawn, hdrawn, hperm⟩ := exists_drawn_of_fresh h
  rw [← String.length_toList, hperm.length_eq, ← hdrawn.length_eq, length_sources]

/-- All of its characters are of the alphabet. -/
theorem mem_alphabet_of_fresh (h : (fresh n).run words = some (password, rest)) :
    ∀ c ∈ password.toList, c ∈ alphabet := by
  intro c hc
  obtain ⟨drawn, hdrawn, hperm⟩ := exists_drawn_of_fresh h
  obtain ⟨items, hitems, hmem⟩ := Fallible.exists_left_of_forall₂ hdrawn (hperm.mem_iff.1 hc)
  exact mem_alphabet_of_mem_sources hitems hmem

/-- With four characters or more, it has one of each class. -/
theorem exists_mem_of_fresh (h : (fresh n).run words = some (password, rest))
    (hn : classes.length ≤ n) (hitems : items ∈ classes) : ∃ c ∈ password.toList, c ∈ items := by
  obtain ⟨drawn, hdrawn, hperm⟩ := exists_drawn_of_fresh h
  obtain ⟨c, hc, hmem⟩ :=
    Fallible.exists_right_of_forall₂ hdrawn (mem_sources_of_mem_classes hn hitems)
  exact ⟨c, hperm.mem_iff.2 hc, hmem⟩

end Password

/-! ## A password that can be handed back -/

/-- Usable settings ask for passwords of 16 to 128 characters. -/
theorem Config.passwordLength_of_check {config : Config} (h : config.check = .ok ()) :
    16 ≤ config.passwordLength ∧ config.passwordLength ≤ 128 := by
  unfold Config.check at h
  split_ifs at h with _ _ hlength
  omega

namespace Password

variable {n : Nat} {words rest : List UInt64} {password : String}

/-- **A text over the alphabet passes the rule when it has 8 to 128
characters.** -/
theorem checkPassword_eq_ok (hlow : 8 ≤ password.length) (hhigh : password.length ≤ 128)
    (hchars : ∀ c ∈ password.toList, c ∈ alphabet) : Rules.checkPassword password = .ok () := by
  have hascii : Naming.IsAscii password.toList := fun c hc =>
    utf8Size_of_mem_alphabet (hchars c hc)
  have hbytes : password.utf8ByteSize = password.length := by
    rw [Naming.utf8ByteSize_of_isAscii hascii, String.length_toList]
  refine Fallible.bind_eq_ok.2 ⟨(), Rules.require_eq_ok_iff.2 ?_, Rules.require_eq_ok_iff.2 ?_⟩
  · rw [hbytes, decide_eq_true hlow, decide_eq_true hhigh]
    rfl
  · exact List.all_eq_true.2 fun c hc => isPasswordChar_of_mem_alphabet (hchars c hc)

/-- **A fresh password is usable.** Whatever words it is drawn from, it has
the length that was asked for, and nothing but letters, digits and the
special characters, with one of each class if it has four characters or
more. At every length that usable settings ask for it passes the rule for
passwords and loses nothing to trimming, and a claim that has a spec has it
with this password written into it. -/
theorem fresh_usable (h : (fresh n).run words = some (password, rest)) :
    password.length = n ∧
      (∀ c ∈ password.toList,
        c.isLower = true ∨ c.isUpper = true ∨ c.isDigit = true ∨ IsSpecial c) ∧
      (4 ≤ n →
        (∃ c ∈ password.toList, c.isLower = true) ∧ (∃ c ∈ password.toList, c.isUpper = true) ∧
          (∃ c ∈ password.toList, c.isDigit = true) ∧ ∃ c ∈ password.toList, IsSpecial c) ∧
      ∀ config : Config, config.check = .ok () → config.passwordLength = n →
        Rules.checkPassword password = .ok () ∧ Text.trim password = password ∧
          ∀ claim spec, Spec.ofClaim claim = .ok spec →
            Spec.ofClaim (claim.put "masterPassword" (.text password)) =
              .ok { spec with masterPassword := some password } := by
  have hlength := length_of_fresh h
  have hchars := mem_alphabet_of_fresh h
  refine ⟨hlength, fun c hc => of_mem_alphabet (hchars c hc), fun hn => ?_,
    fun config hconfig hn => ?_⟩
  · obtain ⟨l, hl, hlower⟩ : ∃ c ∈ password.toList, c ∈ lower :=
      exists_mem_of_fresh h hn (by decide)
    obtain ⟨u, hu, hupper⟩ : ∃ c ∈ password.toList, c ∈ upper :=
      exists_mem_of_fresh h hn (by decide)
    obtain ⟨d, hd, hdigit⟩ : ∃ c ∈ password.toList, c ∈ digits :=
      exists_mem_of_fresh h hn (by decide)
    obtain ⟨s, hs, hspecial⟩ : ∃ c ∈ password.toList, c ∈ specials :=
      exists_mem_of_fresh h hn (by decide)
    exact ⟨⟨l, hl, isLower_of_mem_lower hlower⟩, ⟨u, hu, isUpper_of_mem_upper hupper⟩,
      ⟨d, hd, isDigit_of_mem_digits hdigit⟩, s, hs, mem_specials_iff.1 hspecial⟩
  · obtain ⟨hlow, hhigh⟩ := Config.passwordLength_of_check hconfig
    have hcheck : Rules.checkPassword password = .ok () :=
      checkPassword_eq_ok (by omega) (by omega) hchars
    exact ⟨hcheck, Rules.trim_of_checkPassword hcheck,
      fun claim spec hspec => Spec.ofClaim_put hspec hcheck⟩

/-- The powers of one number are words to draw 16 characters from. -/
theorem fresh_usable_powers :
    let words := (List.range 45).map fun i => UInt64.ofNat (6364136223846793005 ^ (i + 1))
    let password := "4Bs8TB6[J_BjHD%k"
    let config : Config := { passwordLength := 16 }
    (fresh 16).run words = some (password, []) ∧ config.check = .ok () ∧
      (∃ c ∈ password.toList, IsSpecial c) ∧ Rules.checkPassword password = .ok () ∧
      Text.trim password = password ∧
      Spec.ofClaim (.object [("masterPassword", .text password), ("region", .text "us-west-2")]) =
        .ok { Spec.ofRegion "us-west-2" with masterPassword := some password } := by
  intro words password config
  have hfresh : (fresh 16).run words = some (password, []) := by decide +kernel
  have hconfig : config.check = .ok () := rfl
  obtain ⟨-, -, hclasses, husable⟩ := fresh_usable hfresh
  obtain ⟨-, -, -, hspecial⟩ := hclasses (by decide)
  obtain ⟨hcheck, htrim, hspec⟩ := husable config hconfig rfl
  exact ⟨hfresh, hconfig, hspecial, hcheck, htrim,
    hspec _ _ (Spec.ofClaim_region (by decide) (by decide))⟩

end Password

end ClusterBlueprint
