import FixCorpus.Dataset.Unified
import FixCorpus.Origin
import FixCorpus.Proofs.FileTree.Listing
import FixCorpus.Proofs.Text.Decimal
import FixCorpus.Tokenization

/-! The names of files that are written. All of them begin with digits of a hash,
so that they stay in the directory they are written to and are records there. -/

namespace FixCorpus.Dataset

open FileTree

def isNameChar (c : Char) : Bool :=
  c.isAlphanum || c = '-' || c = '.'

theorem utf8Size_of_isNameChar {c : Char} (h : isNameChar c = true) : c.utf8Size = 1 := by
  have small : c.val ≤ 0x7F := by
    simp only [isNameChar, Char.isAlphanum, Bool.or_eq_true, decide_eq_true_eq] at h
    rcases h with ((letter | digit) | rfl) | rfl
    · rcases Bool.or_eq_true_iff.1 letter with upper | lower
      · exact UInt32.le_trans (of_decide_eq_true upper).2 (by decide)
      · exact UInt32.le_trans (of_decide_eq_true (Bool.and_eq_true_iff.1 lower).2) (by decide)
    · exact UInt32.le_trans (of_decide_eq_true (Bool.and_eq_true_iff.1 digit).2) (by decide)
    · decide
    · decide
  exact Char.utf8Size_eq_one_iff.2 small

theorem utf8ByteSize_ofList {cs : List Char} (safe : ∀ c ∈ cs, isNameChar c = true) :
    (String.ofList cs).utf8ByteSize = cs.length := by
  induction cs with
  | nil => rfl
  | cons c cs ih =>
    rw [List.forall_mem_cons] at safe
    have parted : String.ofList (c :: cs) = String.singleton c ++ String.ofList cs :=
      String.toList_inj.1 (by simp)
    rw [parted, String.utf8ByteSize_append, String.utf8ByteSize_singleton, ih safe.2,
      utf8Size_of_isNameChar safe.1, List.length_cons, Nat.add_comm]

theorem plainName_ofList {c : Char} {cs : List Char} (first : c ≠ '.')
    (safe : ∀ d ∈ c :: cs, isNameChar d = true) : Path.PlainName (String.ofList (c :: cs)) where
  nonempty same := by simpa using congrArg String.toList same
  not_here same := first (by simpa using congrArg (fun s => s.toList.head?) same)
  not_back same := first (by simpa using congrArg (fun s => s.toList.head?) same)
  no_slash member := absurd (safe _ (by simpa using member)) (by decide)

theorem isNameChar_of_isAlphanum {c : Char} (h : c.isAlphanum = true) : isNameChar c = true := by
  simp [isNameChar, h]

theorem isAlphanum_hexDigit {n : Nat} (h : n < 16) : (Text.hexDigit n).isAlphanum = true := by
  have all : ∀ n < 16, (Text.hexDigit n).isAlphanum = true := by decide
  exact all n h

theorem isAlphanum_of_mem_hexDigits {width n : Nat} {c : Char}
    (member : c ∈ Text.hexDigits width n) : c.isAlphanum = true := by
  induction width generalizing n with
  | zero => cases member
  | succ width ih =>
    rcases List.mem_append.1 member with front | last
    · exact ih front
    · rw [List.mem_singleton.1 last]
      exact isAlphanum_hexDigit (Nat.mod_lt _ (by decide))

theorem toList_ofParts (parts : List (List UInt8)) :
    (ContentHash.ofParts parts).toList.length = 16 ∧
      ∀ c ∈ (ContentHash.ofParts parts).toList, c.isAlphanum = true := by
  rw [ContentHash.ofParts, String.toList_ofList]
  refine ⟨by simp, fun c member => ?_⟩
  rcases List.mem_append.1 member with first | second
  · exact isAlphanum_of_mem_hexDigits first
  · exact isAlphanum_of_mem_hexDigits second

theorem utf8ByteSize_ofParts (parts : List (List UInt8)) :
    (ContentHash.ofParts parts).utf8ByteSize = 16 := by
  obtain ⟨length_eq, alphanumeric⟩ := toList_ofParts parts
  rw [← String.ofList_toList (s := ContentHash.ofParts parts), utf8ByteSize_ofList fun c member =>
    isNameChar_of_isAlphanum (alphanumeric c member), length_eq]

theorem plainName_append (parts : List (List UInt8)) {rest : String}
    (safe : ∀ c ∈ rest.toList, isNameChar c = true) :
    Path.PlainName (ContentHash.ofParts parts ++ rest) := by
  obtain ⟨length_eq, alphanumeric⟩ := toList_ofParts parts
  cases digits : (ContentHash.ofParts parts).toList with
  | nil => rw [digits] at length_eq; cases length_eq
  | cons c cs =>
    rw [digits] at alphanumeric
    have parted : ContentHash.ofParts parts ++ rest = String.ofList (c :: (cs ++ rest.toList)) :=
      String.toList_inj.1 (by simp [digits])
    rw [parted]
    refine plainName_ofList ?_ fun d member => ?_
    · rintro rfl
      exact absurd (alphanumeric _ List.mem_cons_self) (by decide)
    · rcases List.mem_append.1 (List.cons_append ▸ member) with digit | behind
      · exact isNameChar_of_isAlphanum (alphanumeric d digit)
      · exact safe d behind

theorem isNameChar_json : ∀ c ∈ ".json".toList, isNameChar c = true :=
  List.all_eq_true.1 (by decide)

theorem plainName_outputFileName (text : String) (settings : Settings) :
    Path.PlainName (outputFileName text settings) :=
  plainName_append _ isNameChar_json

theorem utf8ByteSize_outputFileName (text : String) (settings : Settings) :
    (outputFileName text settings).utf8ByteSize = 21 := by
  rw [outputFileName, String.utf8ByteSize_append, utf8ByteSize_ofParts]
  rfl

theorem accepts_outputFileName (output text : String) (settings : Settings) :
    accepts output (outputFileName text settings) =
      isPath (Path.join output (outputFileName text settings)) := by
  simp [accepts, isName, utf8ByteSize_outputFileName]

theorem isNameChar_toString (n : Nat) : ∀ c ∈ (toString n).toList, isNameChar c = true := by
  intro c member
  have digit : c.isDigit = true := by
    rw [show (toString n).toList = Nat.toDigits 10 n from Nat.toList_repr] at member
    exact Text.isDigit_of_mem_toDigits member
  simp [isNameChar, Char.isAlphanum, digit]

theorem utf8ByteSize_toString (n : Nat) : (toString n).utf8ByteSize = (toString n).length := by
  rw [← String.ofList_toList (s := toString n), utf8ByteSize_ofList (isNameChar_toString n),
    String.length_ofList]

theorem datapointFileName_eq (stem path : String) (n : Nat) :
    datapointFileName stem path n = datapointStem stem path ++ ("-" ++ toString n ++ ".json") := by
  rw [datapointFileName, String.append_assoc, String.append_assoc, String.append_assoc]

theorem isNameChar_datapointFileName (stem path : String) (n : Nat) :
    ∀ c ∈ (datapointFileName stem path n).toList, isNameChar c = true := by
  intro c member
  simp only [datapointFileName_eq, String.toList_append, List.mem_append] at member
  rcases member with hash | (hyphen | digit) | extension
  · exact isNameChar_of_isAlphanum ((toList_ofParts _).2 c hash)
  · rw [List.mem_singleton.1 hyphen]
    rfl
  · exact isNameChar_toString n c digit
  · exact isNameChar_json c extension

theorem plainName_datapointFileName (stem path : String) (n : Nat) :
    Path.PlainName (datapointFileName stem path n) := by
  rw [datapointFileName_eq]
  refine plainName_append _ fun c member => isNameChar_datapointFileName stem path n c ?_
  rw [datapointFileName_eq, String.toList_append]
  exact List.mem_append_right _ member

theorem utf8ByteSize_datapointFileName (stem path : String) (n : Nat) :
    (datapointFileName stem path n).utf8ByteSize = 22 + (toString n).length := by
  have hyphen : "-".utf8ByteSize = 1 := rfl
  have extension : ".json".utf8ByteSize = 5 := rfl
  rw [datapointFileName, datapointStem]
  simp only [String.utf8ByteSize_append, utf8ByteSize_ofParts, utf8ByteSize_toString, hyphen,
    extension]
  omega

theorem accepts_of_nameChars {output name : String} (valid : isPath output = true)
    (unended : output.toList.getLast? ≠ some '/') (named : Path.PlainName name)
    (safe : ∀ c ∈ name.toList, isNameChar c = true) :
    accepts output name = (decide (name.utf8ByteSize ≤ 255) &&
      decide (output.utf8ByteSize + 1 + name.utf8ByteSize < 4096)) := by
  simp only [isPath, Bool.and_eq_true, decide_eq_true_eq, Bool.not_eq_true',
    List.contains_eq_mem, decide_eq_false_iff_not] at valid
  have joined : Path.join output name = output ++ "/" ++ name := by
    rw [Path.join, if_neg named.head?_ne, if_neg (by simp [valid, unended])]
  have no_null : '\x00' ∉ name.toList := fun member => absurd (safe _ member) (by decide)
  have spelled : output ++ "/" ++ name ≠ "" ∧ (output ++ "/" ++ name).toList.head? ≠ some '/' ∧
      (output ++ "/" ++ name).toList.contains '\x00' = false := by
    refine ⟨fun same => ?_, ?_, ?_⟩
    · simpa using congrArg String.toList same
    · rw [String.append_assoc, String.toList_append, List.head?_append]
      cases front : output.toList.head? with
      | none => simp [valid] at front
      | some c => simpa [front] using valid.1.1.2
    · simp [valid, no_null]
  have slash : "/".utf8ByteSize = 1 := rfl
  rw [accepts, isName, joined, isPath, decide_eq_true spelled.1, decide_eq_true spelled.2.1,
    spelled.2.2, String.utf8ByteSize_append, String.utf8ByteSize_append, slash]
  simp

theorem accepts_datapointFileName {output : String} (valid : isPath output = true)
    (unended : output.toList.getLast? ≠ some '/') (stem path : String) (n : Nat) :
    accepts output (datapointFileName stem path n) =
      (decide ((toString n).length ≤ 233) &&
        decide (output.utf8ByteSize + (toString n).length < 4073)) := by
  rw [accepts_of_nameChars valid unended (plainName_datapointFileName stem path n)
    (isNameChar_datapointFileName stem path n), utf8ByteSize_datapointFileName]
  exact congrArg₂ and (decide_eq_decide.2 (by omega)) (decide_eq_decide.2 (by omega))

theorem accepts_outputFileName_of_short {output : String} (valid : isPath output = true)
    (unended : output.toList.getLast? ≠ some '/') (short : output.utf8ByteSize < 4074)
    (text : String) (settings : Settings) :
    accepts output (outputFileName text settings) = true := by
  have safe : ∀ c ∈ (outputFileName text settings).toList, isNameChar c = true := by
    rw [outputFileName, String.toList_append]
    exact List.forall_mem_append.2
      ⟨fun c member => isNameChar_of_isAlphanum ((toList_ofParts _).2 c member), isNameChar_json⟩
  rw [accepts_of_nameChars valid unended (plainName_outputFileName text settings) safe,
    utf8ByteSize_outputFileName, decide_eq_true (by decide), decide_eq_true (by omega)]
  rfl

theorem nameStem_numbered (parts : List (List UInt8)) (n : Nat) :
    nameStem (ContentHash.ofParts parts ++ "-" ++ toString n ++ ".json") =
      ContentHash.ofParts parts := by
  have before : ∀ c ∈ (ContentHash.ofParts parts).toList, decide (c ≠ '-') = true := by
    intro c member
    have alphanumeric := (toList_ofParts _).2 c member
    refine decide_eq_true ?_
    rintro rfl
    cases alphanumeric
  have parted : (ContentHash.ofParts parts ++ "-" ++ toString n ++ ".json").toList =
      (ContentHash.ofParts parts).toList ++ '-' :: ((toString n).toList ++ ".json".toList) := by
    simp
  rw [nameStem, parted, List.takeWhile_append_of_pos before]
  simp

theorem nameStem_datapointFileName (stem path : String) (n : Nat) :
    nameStem (datapointFileName stem path n) = datapointStem stem path :=
  nameStem_numbered _ n

theorem numbered_inj {parts parts' : List (List UInt8)} {n n' : Nat} :
    ContentHash.ofParts parts ++ "-" ++ toString n ++ ".json" =
        ContentHash.ofParts parts' ++ "-" ++ toString n' ++ ".json" ↔
      ContentHash.ofParts parts = ContentHash.ofParts parts' ∧ n = n' := by
  constructor
  · intro same
    have hashes : ContentHash.ofParts parts = ContentHash.ofParts parts' := by
      rw [← nameStem_numbered parts n, same, nameStem_numbered]
    refine ⟨hashes, Text.toString_injective ?_⟩
    rw [hashes] at same
    exact (String.append_right_inj _).1 ((String.append_left_inj _).1 same)
  · rintro ⟨hashes, rfl⟩
    rw [hashes]

theorem splitName_json {stem : String} (nonempty : stem ≠ "") :
    Path.splitName (stem ++ ".json") = (stem, some "json") := by
  have reversed : (stem ++ ".json").toList.reverse =
      'n' :: 'o' :: 's' :: 'j' :: '.' :: stem.toList.reverse := by simp
  have inner : stem.toList.reverse ≠ [] := by simpa using nonempty
  rw [Path.splitName, reversed]
  cases back : stem.toList.reverse with
  | nil => exact absurd back inner
  | cons c cs =>
    have front : String.ofList (c :: cs).reverse = stem := by
      rw [← back, List.reverse_reverse, String.ofList_toList]
    rw [← front]
    rfl

theorem namesRecord_join {name stem : String} (h : Path.PlainName name)
    (ends : name = stem ++ ".json") (long : 8 < stem.length) (directory : String) :
    namesRecord (Path.join directory name) = true := by
  have nonempty : stem ≠ "" := by
    rintro rfl
    simp at long
  have not_metadata : name ≠ metadataName := fun same => by
    have metadata : stem = "metadata" := (String.append_left_inj ".json").1 (ends.symm.trans same)
    rw [metadata] at long
    exact absurd long (by decide)
  simp [namesRecord, Path.extension?, h.fileName?_join, ends ▸ splitName_json nonempty,
    not_metadata]

theorem length_ofParts (parts : List (List UInt8)) : (ContentHash.ofParts parts).length = 16 := by
  rw [← String.length_toList, (toList_ofParts parts).1]

theorem namesRecord_datapointFileName (directory stem path : String) (n : Nat) :
    namesRecord (Path.join directory (datapointFileName stem path n)) = true := by
  refine namesRecord_join (plainName_datapointFileName stem path n) rfl ?_ directory
  simp only [datapointStem, String.length_append, length_ofParts]
  omega

end FixCorpus.Dataset
