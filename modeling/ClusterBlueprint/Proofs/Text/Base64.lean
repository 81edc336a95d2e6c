import ClusterBlueprint.Base64
/-!
# Text — reading base64

Whoever is handed a secret decodes its values. `Base64.decode?` is that
reader, written from the standard alphabet and not from the encoder: digits
come in groups of four, only the last group may be filled up with `=`, what
is filled up has no bits of its own, and the bytes have to be UTF-8. A value
that was encoded is read as the text that it was (`decode?_encode`).
-/

namespace ClusterBlueprint

namespace Text

/-- The text of some bytes, if they are UTF-8. -/
def ofBytes? (bs : List UInt8) : Option String := String.fromUTF8? bs.toByteArray

/-- The bytes of a text are read as the text. -/
theorem ofBytes?_bytes (s : String) : ofBytes? (bytes s) = some s := by
  have hbytes : (bytes s).toByteArray = s.toByteArray := by
    rw [bytes, ← List.utf8Encode.eq_1, String.utf8Encode_toList]
  rw [ofBytes?, hbytes, String.fromUTF8?, dif_pos s.isValidUTF8]
  rfl

end Text

namespace Base64

/-! ## The reader -/

/-- The number that a digit stands for: upper-case letters come first, then
lower-case ones, decimal digits, the plus and the slash. -/
def value? (c : Char) : Option Nat :=
  if c.isUpper then some (c.toNat - 'A'.toNat)
  else if c.isLower then some (c.toNat - 'a'.toNat + 26)
  else if c.isDigit then some (c.toNat - '0'.toNat + 52)
  else if c = '+' then some 62
  else if c = '/' then some 63
  else none

/-- The number that digits stand for, the first one the highest. -/
def number? (digits : List Char) : Option Nat :=
  digits.foldlM (fun n c => (value? c).map (n * 64 + ·)) 0

/-- The bytes of a group that ends in padding: the digits that are there
have two or four bits more than the bytes, and these are zero. -/
def paddedBytes? (a b c : Char) : Option (List UInt8) :=
  if c = '=' then do
    let n ← number? [a, b]
    if n % 16 = 0 then some [UInt8.ofNat (n / 16)] else none
  else do
    let n ← number? [a, b, c]
    if n % 4 = 0 then some [UInt8.ofNat (n / 4 / 256), UInt8.ofNat (n / 4)] else none

/-- The bytes of digits in groups of four, of which the last one may be
padded. -/
def decodeBytes? : List Char → Option (List UInt8)
  | [] => some []
  | a :: b :: c :: d :: rest =>
    if d = '=' then if rest = [] then paddedBytes? a b c else none
    else do
      let n ← number? [a, b, c, d]
      let bytes ← decodeBytes? rest
      some (UInt8.ofNat (n / 256 / 256) :: UInt8.ofNat (n / 256) :: UInt8.ofNat n :: bytes)
  | _ => none

/-- The text that was encoded. -/
def decode? (s : String) : Option String := (decodeBytes? s.toList).bind Text.ofBytes?

/-! ## Reading what was written -/

/-- A digit stands for the six bits that it was written for, and is no
padding. -/
theorem value?_digit (n : Nat) : value? (digit n) = some (n % 64) := by
  have hall : ∀ i < 64, value? (digit i) = some i := by decide +kernel
  have hdigit : digit n = digit (n % 64) := by rw [digit, digit, Nat.mod_mod]
  rw [hdigit]
  exact hall _ (Nat.mod_lt _ (by decide))

theorem digit_ne_padding (n : Nat) : digit n ≠ '=' := by
  intro h
  have hvalue := value?_digit n
  rw [h] at hvalue
  have hnone : value? '=' = none := by decide +kernel
  rw [hnone] at hvalue
  cases hvalue

/-- The lowest `k` digits of a number. -/
def digits (n : Nat) : Nat → List Char
  | 0 => []
  | k + 1 => digits (n / 64) k ++ [digit n]

/-- **A number is read from its digits** as far as they reach. -/
theorem number?_digits (n k : Nat) : number? (digits n k) = some (n % 64 ^ k) := by
  induction k generalizing n with
  | zero => simp [digits, number?, Nat.mod_one]
  | succ k ih =>
    have hhigh : n / 64 % 64 ^ k * 64 + n % 64 = n % 64 ^ (k + 1) := by
      rw [Nat.pow_succ', Nat.mod_mul, Nat.add_comm, Nat.mul_comm]
    have hfront : (digits (n / 64) k).foldlM (fun n c => (value? c).map (n * 64 + ·)) 0 =
        some (n / 64 % 64 ^ k) := ih (n / 64)
    rw [digits, number?, List.foldlM_append, hfront, Option.bind_eq_bind, Option.bind_some,
      List.foldlM_cons, value?_digit, Option.map_some, hhigh]
    rfl

/-- A byte is read off a number that ends in it. -/
theorem ofNat_eq {n : Nat} {b : UInt8} (h : n % 256 = b.toNat) : UInt8.ofNat n = b :=
  UInt8.toNat_inj.1 (by rw [UInt8.toNat_ofNat', h])

/-- Bytes are read as they were written. -/
theorem decodeBytes?_encodeBytes (bs : List UInt8) : decodeBytes? (encodeBytes bs) = some bs := by
  fun_induction encodeBytes bs with
  | case1 a b c rest n ih =>
    have ha := a.toNat_lt
    have hb := b.toNat_lt
    have hc := c.toNat_lt
    have hn : n = (a.toNat * 256 + b.toNat) * 256 + c.toNat := rfl
    have hdigits : [digit (n / 64 ^ 3), digit (n / 64 ^ 2), digit (n / 64), digit n] =
        digits n 4 := by
      simp [digits, Nat.div_div_eq_div_mul]
    rw [decodeBytes?, if_neg (digit_ne_padding _), hdigits, number?_digits, ih]
    have hfirst : UInt8.ofNat (n % 64 ^ 4 / 256 / 256) = a := ofNat_eq (by omega)
    have hsecond : UInt8.ofNat (n % 64 ^ 4 / 256) = b := ofNat_eq (by omega)
    have hthird : UInt8.ofNat (n % 64 ^ 4) = c := ofNat_eq (by omega)
    simp only [Option.bind_eq_bind, Option.bind_some, hfirst, hsecond, hthird]
  | case2 a b n =>
    have ha := a.toNat_lt
    have hb := b.toNat_lt
    have hn : n = (a.toNat * 256 + b.toNat) * 256 := rfl
    have hdigits : [digit (n / 64 ^ 3), digit (n / 64 ^ 2), digit (n / 64)] =
        digits (n / 64) 3 := by
      simp [digits, Nat.div_div_eq_div_mul]
    have hfirst : UInt8.ofNat (n / 64 % 64 ^ 3 / 4 / 256) = a := ofNat_eq (by omega)
    have hsecond : UInt8.ofNat (n / 64 % 64 ^ 3 / 4) = b := ofNat_eq (by omega)
    have hzero : n / 64 % 64 ^ 3 % 4 = 0 := by omega
    rw [decodeBytes?, if_pos rfl, if_pos rfl, paddedBytes?, if_neg (digit_ne_padding _), hdigits,
      number?_digits, Option.bind_eq_bind, Option.bind_some, if_pos hzero, hfirst, hsecond]
  | case3 a n =>
    have ha := a.toNat_lt
    have hn : n = a.toNat * 256 * 256 := rfl
    have hdigits : [digit (n / 64 ^ 3), digit (n / 64 ^ 2)] = digits (n / 64 ^ 2) 2 := by
      simp [digits, Nat.div_div_eq_div_mul]
    have hbyte : UInt8.ofNat (n / 64 ^ 2 % 64 ^ 2 / 16) = a := ofNat_eq (by omega)
    have hzero : n / 64 ^ 2 % 64 ^ 2 % 16 = 0 := by omega
    rw [decodeBytes?, if_pos rfl, if_pos rfl, paddedBytes?, if_pos rfl, hdigits, number?_digits,
      Option.bind_eq_bind, Option.bind_some, if_pos hzero, hbyte]
  | case4 => rfl

/-- **A text that was encoded is read again.** -/
theorem decode?_encode (s : String) : decode? (encode s) = some s := by
  rw [decode?, encode, String.toList_ofList, decodeBytes?_encodeBytes, Option.bind_some,
    Text.ofBytes?_bytes]

/-- Padding that hides bits is refused. -/
example : decode? "TQ==" = some "M" ∧ decode? "TR==" = none := by decide +kernel

end Base64

end ClusterBlueprint
