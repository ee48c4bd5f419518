import Mathlib.Data.List.Nodup

namespace Library.Base64Url

def alphabet : List Char := "ABCDEFGHIJKLMNOPQRSTUVWXYZabcdefghijklmnopqrstuvwxyz0123456789-_".toList

def sextets : List ℕ → List ℕ
  | a :: b :: c :: rest => a / 4 :: (a % 4 * 16 + b / 16) :: (b % 16 * 4 + c / 64) :: c % 64 :: sextets rest
  | [a, b] => [a / 4, a % 4 * 16 + b / 16, b % 16 * 4]
  | [a] => [a / 4, a % 4 * 16]
  | [] => []

def digit (n : ℕ) : Char := alphabet.getD n 'A'

def encode (l : List UInt8) : String := String.ofList ((sextets (l.map UInt8.toNat)).map digit)

variable {l l' : List UInt8}

end Library.Base64Url
