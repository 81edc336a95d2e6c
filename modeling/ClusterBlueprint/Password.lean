import ClusterBlueprint.Password.Choice
/-!
# Password — fresh master passwords

A fresh password has a character of each class, as far as its length
allows: one of each is drawn first, the rest comes from all classes
together, and the whole is shuffled. The special characters are ones that
the provider accepts.
-/

namespace ClusterBlueprint

/-- Where fresh passwords come from: given a length and the state of the
source, a password and the state after it. -/
structure PasswordSource (σ : Type) where
  draw : Nat → σ → String × σ

namespace PasswordSource

/-- The source that always gives one password. -/
def constant (password : String) : PasswordSource Unit := ⟨fun _ s => (password, s)⟩

end PasswordSource

namespace Password

/-- The lower-case letters. -/
def lower : List Char := "abcdefghijklmnopqrstuvwxyz".toList

/-- The upper-case letters. -/
def upper : List Char := "ABCDEFGHIJKLMNOPQRSTUVWXYZ".toList

/-- The digits. -/
def digits : List Char := "0123456789".toList

/-- The special characters. -/
def specials : List Char := "!#$%&*()-_=+[]\x7b\x7d<>:?".toList

/-- The classes, in the order in which they are drawn from. -/
def classes : List (List Char) := [lower, upper, digits, specials]

/-- Every character that a fresh password may have. -/
def alphabet : List Char := classes.flatten

/-- What each character of a password of a length is drawn from, before the
shuffle. -/
def sources (length : Nat) : List (List Char) :=
  classes.take length ++ List.replicate (length - classes.length) alphabet

/-- A fresh password of a length. -/
def fresh (length : Nat) : Choice.Draws String := do
  let drawn ← (sources length).mapM Choice.item
  let shuffled ← Choice.shuffle drawn.toArray
  pure (String.ofList shuffled.toList)

/-- The source of fresh passwords over a supply of random words. When the
supply has run out there is no password, and the text is empty. -/
def source : PasswordSource (List UInt64) where
  draw length words := ((fresh length).run words).getD ("", [])

end Password

end ClusterBlueprint
