import FixCorpus.Digest.Sha256
import FixCorpus.Text.Hex

/-! Hashes of contents in several parts. Each part is hashed behind its length, so
that the same bytes in other parts make another hash. -/

namespace FixCorpus.ContentHash

/-- The last `width` bytes of a number, the least significant one first. -/
def littleEndian : (width : Nat) → (n : Nat) → List UInt8
  | 0, _ => []
  | width + 1, n => UInt8.ofNat (n % 256) :: littleEndian width (n / 256)

def framed (parts : List (List UInt8)) : List UInt8 :=
  parts.flatMap fun part => littleEndian 8 part.length ++ part

def bytes (text : String) : List UInt8 :=
  text.toUTF8.data.toList

/-- The first eight bytes of the hash, as sixteen digits. -/
def ofParts (parts : List (List UInt8)) : String :=
  let s := Sha256.hash (framed parts)
  String.ofList (Text.hexDigits 8 s.a.toNat ++ Text.hexDigits 8 s.b.toNat)

@[simp] theorem length_littleEndian (width n : Nat) : (littleEndian width n).length = width := by
  induction width generalizing n with
  | zero => rfl
  | succ width ih => simp [littleEndian, ih]

end FixCorpus.ContentHash
