import GuestStorage.Archive.Layout
import GuestStorage.Proofs.Host.FileCreation

namespace GuestStorage

theorem utf8ByteSize_ofList_le (text : List Char) : (String.ofList text).utf8ByteSize ≤ 4 * text.length := by
  induction text with
  | nil => exact Nat.le_refl 0
  | cons character rest ih =>
      have width := character.utf8Size_le_four
      have parts : String.ofList (character :: rest) = String.singleton character ++ String.ofList rest := by
        rw [String.singleton_eq_ofList, ← String.ofList_append, List.singleton_append]
      rw [parts, String.utf8ByteSize_append, String.utf8ByteSize_singleton, List.length_cons]
      omega

structure OrdinaryName (text : String) : Prop where
  names : Host.Names text
  undivided : '/' ∉ text.toList
  unterminated : '\x00' ∉ text.toList

instance (text : String) : Decidable (OrdinaryName text) :=
  decidable_of_iff
    ((HostPath.isTrivial text = false ∧ text ≠ ".." ∧ text.utf8ByteSize ≤ Host.maxNameLength) ∧
      '/' ∉ text.toList ∧ '\x00' ∉ text.toList)
    ⟨fun ⟨⟨nontrivial, notUp, short⟩, undivided, unterminated⟩ =>
        ⟨⟨nontrivial, notUp, short⟩, undivided, unterminated⟩,
      fun ⟨⟨nontrivial, notUp, short⟩, undivided, unterminated⟩ =>
        ⟨⟨nontrivial, notUp, short⟩, undivided, unterminated⟩⟩

namespace Numeral

structure ShowsDigit (digit : Nat → Char) : Prop where
  low : ∀ value, digit value = digit (value % 16)
  distinct : ∀ left < 16, ∀ right < 16, digit left = digit right → left = right
  plain : ∀ value < 16, digit value ≠ '/' ∧ digit value ≠ '\x00'

theorem showsDigit_upper : ShowsDigit upperDigit where
  low value := by rw [upperDigit, upperDigit, lowerDigit, lowerDigit, Nat.mod_mod]
  distinct := by decide
  plain := by decide

theorem showsDigit_lower : ShowsDigit lowerDigit where
  low value := by rw [lowerDigit, lowerDigit, Nat.mod_mod]
  distinct := by decide
  plain := by decide

variable {digit : Nat → Char}

theorem ShowsDigit.plain_of_mem (shown : ShowsDigit digit) {width value : Nat} {character : Char}
    (member : character ∈ fixedDigits digit width value) :
    character ≠ '/' ∧ character ≠ '\x00' := by
  induction width generalizing value with
  | zero => cases member
  | succ width ih =>
      rcases List.mem_append.mp member with front | last
      · exact ih front
      · rw [List.mem_singleton.mp last, shown.low]
        exact shown.plain _ (Nat.mod_lt _ (by decide))

theorem ShowsDigit.eq_of_fixedDigits (shown : ShowsDigit digit) {width left right : Nat}
    (boundLeft : left < Nat.pow 16 width) (boundRight : right < Nat.pow 16 width)
    (same : fixedDigits digit width left = fixedDigits digit width right) : left = right := by
  induction width generalizing left right with
  | zero =>
      have single : Nat.pow 16 0 = 1 := rfl
      omega
  | succ width ih =>
      have power : Nat.pow 16 (width + 1) = 16 * Nat.pow 16 width := Nat.mul_comm ..
      obtain ⟨front, last⟩ := List.append_inj' same rfl
      rw [List.singleton_inj, shown.low left, shown.low right] at last
      have low := shown.distinct _ (Nat.mod_lt _ (by decide)) _ (Nat.mod_lt _ (by decide)) last
      have high := ih (by omega) (by omega) front
      omega

theorem ShowsDigit.ordinaryName (shown : ShowsDigit digit) (value : Nat) :
    OrdinaryName (String.ofList (fixedDigits digit 8 value)) := by
  have plain {character : Char} (member : character ∈ fixedDigits digit 8 value) :=
    shown.plain_of_mem member
  have width := length_fixedDigits digit 8 value
  have other (text : List Char) (short : text.length ≠ 8) :
      String.ofList (fixedDigits digit 8 value) ≠ String.ofList text := by
    intro same
    rw [← String.ofList_injective same] at short
    exact short width
  refine ⟨⟨?_, other ['.', '.'] (by decide), ?_⟩, ?_, ?_⟩
  · rw [HostPath.isTrivial, decide_eq_false (other [] (by decide)), decide_eq_false (other ['.'] (by decide))]
    rfl
  · have short := utf8ByteSize_ofList_le (fixedDigits digit 8 value)
    rw [width] at short
    exact Nat.le_trans short (by decide)
  · rw [String.toList_ofList]
    exact fun member => (plain member).1 rfl
  · rw [String.toList_ofList]
    exact fun member => (plain member).2 rfl

end Numeral

namespace Layout

open Numeral

theorem ordinaryName_upperWord (word : UInt32) : OrdinaryName (upperWord word) :=
  showsDigit_upper.ordinaryName word.toNat

theorem ordinaryName_lowerWord (word : UInt32) : OrdinaryName (lowerWord word) :=
  showsDigit_lower.ordinaryName word.toNat

theorem toNat_lt_digits (word : UInt32) : word.toNat < Nat.pow 16 8 := word.toNat_lt

theorem upperWord_injective {left right : UInt32} (same : upperWord left = upperWord right) : left = right :=
  UInt32.toNat_inj.mp
    (showsDigit_upper.eq_of_fixedDigits (toNat_lt_digits left) (toNat_lt_digits right)
      (String.ofList_injective same))

theorem lowerWord_injective {left right : UInt32} (same : lowerWord left = lowerWord right) : left = right :=
  UInt32.toNat_inj.mp
    (showsDigit_lower.eq_of_fixedDigits (toNat_lt_digits left) (toNat_lt_digits right)
      (String.ofList_injective same))

theorem programId_injective {left right : UInt64}
    (high : (left >>> 32).toUInt32 = (right >>> 32).toUInt32) (low : left.toUInt32 = right.toUInt32) :
    left = right := by
  have high := congrArg UInt32.toNat high
  have low := congrArg UInt32.toNat low
  have boundLeft := left.toNat_lt
  have boundRight := right.toNat_lt
  simp only [UInt64.toNat_toUInt32, UInt64.toNat_shiftRight, Nat.shiftRight_eq_div_pow] at high low
  apply UInt64.toNat_inj.mp
  have shift : UInt64.toNat 32 % 64 = 32 := by decide
  rw [shift] at high
  omega

theorem joinText_eq_child {name : String} (ordinary : OrdinaryName name) (base : HostPath) :
    joinText base name = base.child name := by
  have whole : HostPath.ofString name = ⟨[name]⟩ := by
    rw [HostPath.ofString, List.splitOn_eq_singleton ordinary.undivided, List.map_singleton,
      String.ofList_toList]
  rw [joinText, whole, HostPath.child]

end Layout

end GuestStorage
