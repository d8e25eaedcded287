import FixCorpus.Digest.ContentHash
import Mathlib.Algebra.Group.Nat.Defs

/-! Contents of several parts have a message of their own (`framed_injective`). Its
bytes can be cut into parts in one way only: each length has the same number of
bytes, and it says where its part ends. The digits of the hash tell apart what the
first bits of the hash of the message tell apart. -/

namespace FixCorpus

namespace Text

theorem hexDigit_injective {m n : Nat} (hm : m < 16) (hn : n < 16)
    (same : hexDigit m = hexDigit n) : m = n := by
  have all : ∀ m < 16, ∀ n < 16, hexDigit m = hexDigit n → m = n := by decide
  exact all m hm n hn same

theorem hexDigits_injective {width m n : Nat} (hm : m < 16 ^ width) (hn : n < 16 ^ width)
    (same : hexDigits width m = hexDigits width n) : m = n := by
  induction width generalizing m n with
  | zero => omega
  | succ width ih =>
    rw [Nat.pow_succ] at hm hn
    obtain ⟨front, last⟩ := List.append_inj' same rfl
    have quotient := ih (by omega) (by omega) front
    have remainder := hexDigit_injective (Nat.mod_lt m (by decide)) (Nat.mod_lt n (by decide))
      (List.cons.inj last).1
    omega

end Text

namespace ContentHash

open Text

theorem littleEndian_injective {width m n : Nat} (hm : m < 256 ^ width) (hn : n < 256 ^ width)
    (same : littleEndian width m = littleEndian width n) : m = n := by
  induction width generalizing m n with
  | zero => omega
  | succ width ih =>
    rw [Nat.pow_succ] at hm hn
    obtain ⟨first, rest⟩ := List.cons.inj same
    have quotient := ih (by omega) (by omega) rest
    have remainder : m % 256 = n % 256 := by simpa using congrArg UInt8.toNat first
    omega

theorem framed_cons (part : List UInt8) (parts : List (List UInt8)) :
    framed (part :: parts) = littleEndian 8 part.length ++ (part ++ framed parts) := by
  rw [framed, List.flatMap_cons, List.append_assoc]
  rfl

theorem cut_framed {part other rest behind : List UInt8} (short : part.length < 2 ^ 64)
    (other_short : other.length < 2 ^ 64)
    (same : littleEndian 8 part.length ++ (part ++ rest) =
      littleEndian 8 other.length ++ (other ++ behind)) : part = other ∧ rest = behind := by
  obtain ⟨lengths, parts⟩ := List.append_inj same (by simp)
  exact List.append_inj parts (littleEndian_injective short other_short lengths)

theorem framed_injective {parts others : List (List UInt8)} (short : ∀ p ∈ parts, p.length < 2 ^ 64)
    (others_short : ∀ p ∈ others, p.length < 2 ^ 64) (same : framed parts = framed others) :
    parts = others := by
  -- a length is never empty, so a message of some parts is not the one of none
  have nonempty : ∀ (part : List UInt8) parts, framed (part :: parts) ≠ framed [] := by
    intro part parts empty
    rw [framed_cons] at empty
    cases empty
  induction parts generalizing others with
  | nil =>
    cases others with
    | nil => rfl
    | cons other others => exact absurd same.symm (nonempty other others)
  | cons part parts ih =>
    cases others with
    | nil => exact absurd same (nonempty part parts)
    | cons other others =>
      obtain ⟨first, rest⟩ := List.forall_mem_cons.1 short
      obtain ⟨other_first, other_rest⟩ := List.forall_mem_cons.1 others_short
      rw [framed_cons, framed_cons] at same
      obtain ⟨rfl, behind⟩ := cut_framed first other_first same
      rw [ih rest other_rest behind]

theorem bytes_injective {s t : String} (same : bytes s = bytes t) : s = t := by
  rw [bytes, bytes, Array.toList_inj, String.toUTF8_eq_toByteArray,
    String.toUTF8_eq_toByteArray] at same
  exact String.toByteArray_inj.1 (ByteArray.ext same)

theorem length_bytes (s : String) : (bytes s).length = s.utf8ByteSize := rfl

def hashHead (message : List UInt8) : UInt32 × UInt32 :=
  ((Sha256.hash message).a, (Sha256.hash message).b)

theorem ofParts_eq_iff {parts others : List (List UInt8)} :
    ofParts parts = ofParts others ↔ hashHead (framed parts) = hashHead (framed others) := by
  constructor
  · intro same
    rw [ofParts, ofParts, String.ofList_inj] at same
    obtain ⟨first, second⟩ := List.append_inj same (by simp)
    have word : ∀ {v w : UInt32}, hexDigits 8 v.toNat = hexDigits 8 w.toNat → v = w :=
      fun digits => UInt32.toNat_inj.1 (hexDigits_injective (UInt32.toNat_lt _) (UInt32.toNat_lt _)
        digits)
    exact Prod.ext (word first) (word second)
  · intro same
    obtain ⟨first, second⟩ := Prod.ext_iff.1 same
    simp only [hashHead] at first second
    rw [ofParts, ofParts, first, second]

end ContentHash

end FixCorpus
