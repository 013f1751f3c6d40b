/-!
# Base64

Octets in groups of three, each group as four characters of six bits; a group that is not full is
filled up with equals signs.
-/

namespace JobWatch.Text.Base64

/-- The character of six bits. -/
def digit (n : Nat) : Char :=
  "ABCDEFGHIJKLMNOPQRSTUVWXYZabcdefghijklmnopqrstuvwxyz0123456789+/".toList.getD n '='

def encode : List UInt8 → List Char
  | [] => []
  | [a] => let n := a.toNat; [digit (n / 4), digit (n % 4 * 16), '=', '=']
  | [a, b] =>
    let n := a.toNat * 256 + b.toNat
    [digit (n / 1024), digit (n / 16 % 64), digit (n % 16 * 4), '=']
  | a :: b :: c :: rest =>
    let n := a.toNat * 65536 + b.toNat * 256 + c.toNat
    digit (n / 262144) :: digit (n / 4096 % 64) :: digit (n / 64 % 64) :: digit (n % 64) ::
      encode rest

end JobWatch.Text.Base64
