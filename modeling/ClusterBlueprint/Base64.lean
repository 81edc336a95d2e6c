import ClusterBlueprint.Power
import ClusterBlueprint.Text.Bytes
/-!
# Base64

Secrets carry their values in the standard base64 alphabet. Three bytes are
four digits of six bits; a last group of one or two bytes is filled up with
zero bits, and `=` stands for the digits it does not reach.
-/

namespace ClusterBlueprint

namespace Base64

/-- The sixty-four digits in order. -/
def alphabet : List Char :=
  "ABCDEFGHIJKLMNOPQRSTUVWXYZabcdefghijklmnopqrstuvwxyz0123456789+/".toList

/-- The digit of the lowest six bits of a number. -/
def digit (n : Nat) : Char := alphabet.getD (n % 64) 'A'

/-- The digits of a list of bytes. -/
def encodeBytes : List UInt8 → List Char
  | a :: b :: c :: rest =>
    let n := (a.toNat * 256 + b.toNat) * 256 + c.toNat
    digit (n / 64 ^ 3) :: digit (n / 64 ^ 2) :: digit (n / 64) :: digit n :: encodeBytes rest
  | [a, b] =>
    let n := (a.toNat * 256 + b.toNat) * 256
    [digit (n / 64 ^ 3), digit (n / 64 ^ 2), digit (n / 64), '=']
  | [a] =>
    let n := a.toNat * 256 * 256
    [digit (n / 64 ^ 3), digit (n / 64 ^ 2), '=', '=']
  | [] => []

/-- The bytes of a text, encoded. -/
def encode (s : String) : String := String.ofList (encodeBytes (Text.bytes s))

end Base64

end ClusterBlueprint
