import ClusterBlueprint.Power
import ClusterBlueprint.Text.Bytes
/-!
# SHA-256

The digest of a text names the content it was taken over: a resource that
is named by its content gets the first digits of it, and so does a name
whose start was shortened. The computation is the standard's, over lists:
the message schedule is a window of sixteen words that each of the
sixty-four rounds moves on by one, so a block is one recursion over the
round constants.
-/

namespace ClusterBlueprint

namespace Sha256

/-- The eight words that a digest is computed in. -/
structure State where
  a : UInt32
  b : UInt32
  c : UInt32
  d : UInt32
  e : UInt32
  f : UInt32
  g : UInt32
  h : UInt32
deriving DecidableEq

/-- The words that the first block starts from: the fractional parts of the
square roots of the first eight primes. -/
def initial : State :=
  { a := 0x6a09e667, b := 0xbb67ae85, c := 0x3c6ef372, d := 0xa54ff53a
    e := 0x510e527f, f := 0x9b05688c, g := 0x1f83d9ab, h := 0x5be0cd19 }

/-- The constants of the rounds: the fractional parts of the cube roots of
the first sixty-four primes. -/
def constants : List UInt32 :=
  [ 0x428a2f98, 0x71374491, 0xb5c0fbcf, 0xe9b5dba5, 0x3956c25b, 0x59f111f1, 0x923f82a4, 0xab1c5ed5,
    0xd807aa98, 0x12835b01, 0x243185be, 0x550c7dc3, 0x72be5d74, 0x80deb1fe, 0x9bdc06a7, 0xc19bf174,
    0xe49b69c1, 0xefbe4786, 0x0fc19dc6, 0x240ca1cc, 0x2de92c6f, 0x4a7484aa, 0x5cb0a9dc, 0x76f988da,
    0x983e5152, 0xa831c66d, 0xb00327c8, 0xbf597fc7, 0xc6e00bf3, 0xd5a79147, 0x06ca6351, 0x14292967,
    0x27b70a85, 0x2e1b2138, 0x4d2c6dfc, 0x53380d13, 0x650a7354, 0x766a0abb, 0x81c2c92e, 0x92722c85,
    0xa2bfe8a1, 0xa81a664b, 0xc24b8b70, 0xc76c51a3, 0xd192e819, 0xd6990624, 0xf40e3585, 0x106aa070,
    0x19a4c116, 0x1e376c08, 0x2748774c, 0x34b0bcb5, 0x391c0cb3, 0x4ed8aa4a, 0x5b9cca4f, 0x682e6ff3,
    0x748f82ee, 0x78a5636f, 0x84c87814, 0x8cc70208, 0x90befffa, 0xa4506ceb, 0xbef9a3f7, 0xc67178f2 ]

/-- A word rotated to the right by `n`, from 1 to 31. -/
def rotate (x n : UInt32) : UInt32 := x >>> n ||| x <<< (32 - n)

/-- One round, with a constant and a word of the schedule. -/
def round (k w : UInt32) (s : State) : State :=
  let s1 := rotate s.e 6 ^^^ rotate s.e 11 ^^^ rotate s.e 25
  let choice := (s.e &&& s.f) ^^^ (~~~s.e &&& s.g)
  let t1 := s.h + s1 + choice + k + w
  let s0 := rotate s.a 2 ^^^ rotate s.a 13 ^^^ rotate s.a 22
  let majority := (s.a &&& s.b) ^^^ (s.a &&& s.c) ^^^ (s.b &&& s.c)
  { a := t1 + (s0 + majority), b := s.a, c := s.b, d := s.c
    e := s.d + t1, f := s.e, g := s.f, h := s.g }

/-- The word that follows a window of sixteen in the schedule. -/
def nextWord (window : List UInt32) : UInt32 :=
  let at_ (i : Nat) : UInt32 := window.getD i 0
  let s0 := rotate (at_ 1) 7 ^^^ rotate (at_ 1) 18 ^^^ (at_ 1 >>> 3)
  let s1 := rotate (at_ 14) 17 ^^^ rotate (at_ 14) 19 ^^^ (at_ 14 >>> 10)
  at_ 0 + s0 + at_ 9 + s1

/-- The rounds with the given constants, from a window of the schedule. -/
def rounds : List UInt32 → List UInt32 → State → State
  | [], _, s => s
  | k :: ks, window, s =>
    rounds ks (window.drop 1 ++ [nextWord window]) (round k (window.headD 0) s)

/-- Sum of the words, each for itself. -/
def State.add (s t : State) : State :=
  { a := s.a + t.a, b := s.b + t.b, c := s.c + t.c, d := s.d + t.d
    e := s.e + t.e, f := s.f + t.f, g := s.g + t.g, h := s.h + t.h }

/-- Four bytes as a word, the first one highest. -/
def word (a b c d : UInt8) : UInt32 :=
  a.toUInt32 <<< 24 ||| b.toUInt32 <<< 16 ||| c.toUInt32 <<< 8 ||| d.toUInt32

/-- The words of a list of bytes; fewer than four at the end are left out. -/
def words : List UInt8 → List UInt32
  | a :: b :: c :: d :: rest => word a b c d :: words rest
  | _ => []

/-- A block of sixteen words worked into the state. -/
def absorb (s : State) (block : List UInt32) : State := s.add (rounds constants block s)

/-- Works `n` blocks of a list of words into the state. -/
def absorbAll : Nat → List UInt32 → State → State
  | 0, _, s => s
  | n + 1, ws, s => absorbAll n (ws.drop 16) (absorb s (ws.take 16))

/-- The message with a one bit, zeros and its length in bits after it, up to
a multiple of sixty-four bytes. -/
def pad (message : List UInt8) : List UInt8 :=
  let zeros := (119 - message.length % 64) % 64
  let bits := 8 * message.length
  let lengthBytes := (List.range 8).map fun i => UInt8.ofNat (bits / 256 ^ (7 - i))
  message ++ 0x80 :: (List.replicate zeros 0 ++ lengthBytes)

/-- The state after the whole message. -/
def digest (message : List UInt8) : State :=
  let padded := pad message
  absorbAll (padded.length / 64) (words padded) initial

/-- The words of a state in order. -/
def State.toList (s : State) : List UInt32 := [s.a, s.b, s.c, s.d, s.e, s.f, s.g, s.h]

/-- A word in eight hexadecimal digits. -/
def wordHex (w : UInt32) : List Char :=
  (List.range 8).map fun i => (w.toNat / 16 ^ (7 - i) % 16).digitChar

/-- The digest of a message in sixty-four hexadecimal digits. -/
def hexDigest (message : List UInt8) : List Char := (digest message).toList.flatMap wordHex

/-- The digest of a text in hexadecimal digits. -/
def hexOfText (s : String) : List Char := hexDigest (Text.bytes s)

/-! ## The form of a digest -/

/-- The hexadecimal digits, letters in lower case. -/
def hexDigits : List Char :=
  ['0', '1', '2', '3', '4', '5', '6', '7', '8', '9', 'a', 'b', 'c', 'd', 'e', 'f']

theorem digitChar_mem_hexDigits {n : Nat} (h : n < 16) : n.digitChar ∈ hexDigits := by
  have : ∀ m : Fin 16, m.val.digitChar ∈ hexDigits := by decide
  exact this ⟨n, h⟩

theorem length_wordHex (w : UInt32) : (wordHex w).length = 8 := by simp [wordHex]

theorem mem_wordHex {w : UInt32} {c : Char} (h : c ∈ wordHex w) : c ∈ hexDigits := by
  obtain ⟨i, -, rfl⟩ := List.mem_map.1 h
  exact digitChar_mem_hexDigits (Nat.mod_lt _ (by decide))

/-- **A digest has sixty-four digits.** -/
theorem length_hexDigest (message : List UInt8) : (hexDigest message).length = 64 := by
  simp [hexDigest, State.toList, length_wordHex]

/-- **A digest is written in lower-case hexadecimal digits.** -/
theorem mem_hexDigest {message : List UInt8} {c : Char} (h : c ∈ hexDigest message) :
    c ∈ hexDigits := by
  obtain ⟨w, -, hc⟩ := List.mem_flatMap.1 h
  exact mem_wordHex hc

end Sha256

end ClusterBlueprint
