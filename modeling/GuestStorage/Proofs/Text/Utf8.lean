import GuestStorage.Text.Utf8

namespace GuestStorage.Utf8

open String (utf8EncodeChar)

@[simp] theorem encode_ofList (characters : List Char) :
    encode (String.ofList characters) = characters.flatMap utf8EncodeChar := by
  simp [encode, List.utf8Encode]

theorem encode_eq (text : String) : encode text = text.toList.flatMap utf8EncodeChar := by
  rw [← encode_ofList, String.ofList_toList]

/-- A number in digits of six bits, the first of them marked by how many bytes there are. The number is not a
surrogate, and no fewer bytes can hold it. -/
inductive Written (value : Nat) : Bytes → Prop
  | one (short : value < 128) : Written value [.ofNat value]
  | two {first last : Nat} (whole : value = first * 64 + last) (least : 2 ≤ first) (most : first < 32)
      (lastShort : last < 64) : Written value [.ofNat (first + 192), .ofNat (last + 128)]
  | three {first second last : Nat} (whole : value = (first * 64 + second) * 64 + last) (most : first < 16)
      (short : second < 64) (lastShort : last < 64) (least : first = 0 → 32 ≤ second)
      (scalar : first = 13 → second < 32) :
      Written value [.ofNat (first + 224), .ofNat (second + 128), .ofNat (last + 128)]
  | four {first second third last : Nat} (whole : value = ((first * 64 + second) * 64 + third) * 64 + last)
      (most : first < 5) (short : second < 64) (thirdShort : third < 64) (lastShort : last < 64)
      (least : first = 0 → 16 ≤ second) (bounded : first = 4 → second < 16) :
      Written value [.ofNat (first + 240), .ofNat (second + 128), .ofNat (third + 128), .ofNat (last + 128)]

theorem written (character : Char) : Written character.toNat (utf8EncodeChar character) := by
  have valid := character.valid
  simp only [UInt32.isValidChar, Nat.isValidChar] at valid
  rw [utf8EncodeChar, Char.toNat]
  generalize character.val.toNat = value at valid
  split
  · exact .one (by omega)
  · split
    · exact .two (by omega) (by omega) (by omega) (by omega)
    · split
      · exact .three (by omega) (by omega) (by omega) (by omega) (by omega) (by omega)
      · exact .four (by omega) (by omega) (by omega) (by omega) (by omega) (by omega) (by omega)

theorem Written.ne_nil {value : Nat} {data : Bytes} (written : Written value data) : data ≠ [] := by
  cases written <;> exact nofun

structure Follows (low high : UInt8) (digit : Nat) : Prop where
  short : digit < 64
  least : low.toNat ≤ digit + 128
  most : digit + 128 ≤ high.toNat

theorem Follows.of_short {digit : Nat} (short : digit < 64) : Follows 0x80 0xBF digit where
  short := short
  least := Nat.le_add_left ..
  most := Nat.add_le_add_right (Nat.le_pred_of_lt short) 128

theorem Follows.toNat {low high : UInt8} {digit : Nat} (follows : Follows low high digit) :
    (UInt8.ofNat (digit + 128)).toNat = digit + 128 := by
  have short := follows.short
  rw [UInt8.toNat_ofNat']
  omega

theorem Follows.inside {low high : UInt8} {digit : Nat} (follows : Follows low high digit) :
    low ≤ UInt8.ofNat (digit + 128) ∧ UInt8.ofNat (digit + 128) ≤ high := by
  rw [UInt8.le_iff_toNat_le, UInt8.le_iff_toNat_le, follows.toNat]
  exact ⟨follows.least, follows.most⟩

def Leads (byte : UInt8) (owed first second : Nat) : Prop :=
  ∃ low high, lead byte = some (.inside owed low high first) ∧ Follows low high second

theorem leads_two {first last : Nat} (least : 2 ≤ first) (most : first < 32) (short : last < 64) :
    Leads (.ofNat (first + 192)) 1 first last := by
  have table : ∀ first < 32, 2 ≤ first →
      lead (.ofNat (first + 192)) = some (.inside 1 0x80 0xBF first) := by decide
  exact ⟨_, _, table first most least, .of_short short⟩

theorem leads_three {first second : Nat} (most : first < 16) (short : second < 64)
    (least : first = 0 → 32 ≤ second) (scalar : first = 13 → second < 32) :
    Leads (.ofNat (first + 224)) 2 first second := by
  have table : ∀ first < 16, lead (.ofNat (first + 224)) =
      some (.inside 2 (if first = 0 then 0xA0 else 0x80) (if first = 13 then 0x9F else 0xBF) first) := by
    decide
  refine ⟨_, _, table first most, short, ?_, ?_⟩
  · split
    · exact Nat.add_le_add_right (least ‹_›) 128
    · exact Nat.le_add_left ..
  · split
    · exact Nat.add_le_add_right (Nat.le_pred_of_lt (scalar ‹_›)) 128
    · exact Nat.add_le_add_right (Nat.le_pred_of_lt short) 128

theorem leads_four {first second : Nat} (most : first < 5) (short : second < 64)
    (least : first = 0 → 16 ≤ second) (bounded : first = 4 → second < 16) :
    Leads (.ofNat (first + 240)) 3 first second := by
  have table : ∀ first < 5, lead (.ofNat (first + 240)) =
      some (.inside 3 (if first = 0 then 0x90 else 0x80) (if first = 4 then 0x8F else 0xBF) first) := by
    decide
  refine ⟨_, _, table first most, short, ?_, ?_⟩
  · split
    · exact Nat.add_le_add_right (least ‹_›) 128
    · exact Nat.le_add_left ..
  · split
    · exact Nat.add_le_add_right (Nat.le_pred_of_lt (bounded ‹_›)) 128
    · exact Nat.add_le_add_right (Nat.le_pred_of_lt short) 128

theorem decodeFrom_leads {byte : UInt8} {owed first second : Nat} (leads : Leads byte owed first second) :
    ∃ low high, Follows low high second ∧
      ∀ rest, decodeFrom .ready (byte :: rest) = decodeFrom (.inside owed low high first) rest := by
  obtain ⟨low, high, starts, follows⟩ := leads
  refine ⟨low, high, follows, fun rest => ?_⟩
  simp only [decodeFrom, step, start, starts, List.nil_append]

theorem decodeFrom_last {low high : UInt8} {digit : Nat} (follows : Follows low high digit) (value : Nat)
    (rest : Bytes) : decodeFrom (.inside 1 low high value) (.ofNat (digit + 128) :: rest) =
      Char.ofNat (value * 64 + digit) :: decodeFrom .ready rest := by
  simp only [decodeFrom, step, if_pos follows.inside, follows.toNat, Nat.add_sub_cancel, Nat.le_refl, if_true,
    List.cons_append, List.nil_append]

theorem decodeFrom_more {low high : UInt8} {digit : Nat} (follows : Follows low high digit) (owed value : Nat)
    (rest : Bytes) : decodeFrom (.inside (owed + 2) low high value) (.ofNat (digit + 128) :: rest) =
      decodeFrom (.inside (owed + 1) 0x80 0xBF (value * 64 + digit)) rest := by
  have several : ¬ owed + 2 ≤ 1 := by omega
  simp only [decodeFrom, step, if_pos follows.inside, follows.toNat, Nat.add_sub_cancel, if_neg several,
    List.nil_append]
  rfl

theorem decodeFrom_written {value : Nat} {data : Bytes} (written : Written value data) (rest : Bytes) :
    decodeFrom .ready (data ++ rest) = Char.ofNat value :: decodeFrom .ready rest := by
  cases written with
  | one short =>
      have byte : (UInt8.ofNat value).toNat = value := by
        rw [UInt8.toNat_ofNat']
        omega
      have ascii : UInt8.ofNat value < 0x80 := by
        rw [UInt8.lt_iff_toNat_lt, byte]
        exact short
      simp only [List.cons_append, List.nil_append, decodeFrom, step, start, lead, if_pos ascii, byte]
  | two whole least most lastShort =>
      obtain ⟨low, high, follows, starts⟩ := decodeFrom_leads (leads_two least most lastShort)
      rw [whole, List.cons_append, starts, List.cons_append, decodeFrom_last follows, List.nil_append]
  | three whole most short lastShort least scalar =>
      obtain ⟨low, high, follows, starts⟩ := decodeFrom_leads (leads_three most short least scalar)
      rw [whole, List.cons_append, starts, List.cons_append, decodeFrom_more follows, List.cons_append,
        decodeFrom_last (.of_short lastShort), List.nil_append]
  | four whole most short thirdShort lastShort least bounded =>
      obtain ⟨low, high, follows, starts⟩ := decodeFrom_leads (leads_four most short least bounded)
      rw [whole, List.cons_append, starts, List.cons_append, decodeFrom_more follows, List.cons_append,
        decodeFrom_more (.of_short thirdShort), List.cons_append, decodeFrom_last (.of_short lastShort),
        List.nil_append]

@[simp] theorem decode_encode (text : String) : decode (encode text) = text := by
  have reads (characters : List Char) :
      decodeFrom .ready (characters.flatMap utf8EncodeChar) = characters := by
    induction characters with
    | nil => rfl
    | cons character rest ih =>
        rw [List.flatMap_cons, decodeFrom_written (written character), Char.ofNat_toNat, ih]
  rw [decode, encode_eq, reads, String.ofList_toList]

theorem Written.eq_zero {value : Nat} {data : Bytes} (written : Written value data) (zero : 0 ∈ data) :
    value = 0 := by
  cases written <;>
    simp only [List.mem_cons, List.not_mem_nil, or_false, ← UInt8.toNat_inj, UInt8.toNat_ofNat',
      UInt8.toNat_zero] at zero
  all_goals omega

theorem zero_notMem_encode {text : String} (unterminated : '\x00' ∉ text.toList) : 0 ∉ encode text := by
  rw [encode_eq, List.mem_flatMap]
  rintro ⟨character, member, zero⟩
  have null : character = '\x00' := Char.toNat_inj.mp ((written character).eq_zero zero)
  exact unterminated (null ▸ member)

theorem lt_of_written {less more : Nat} {left right : Bytes} (first : Written less left)
    (second : Written more right) (smaller : less < more) (front back : Bytes) :
    left ++ front < right ++ back := by
  cases first <;> cases second <;>
    simp only [List.cons_append, List.nil_append, List.cons_lt_cons_iff, UInt8.lt_iff_toNat_lt,
      UInt8.toNat_ofNat', ← UInt8.toNat_inj]
  all_goals omega

theorem flatMap_encodeChar_lt {left right : List Char} (less : left < right) :
    left.flatMap utf8EncodeChar < right.flatMap utf8EncodeChar := by
  induction left generalizing right with
  | nil =>
      cases right with
      | nil => exact absurd less (List.not_lt_nil [])
      | cons character rest =>
          rw [List.flatMap_nil, List.flatMap_cons]
          obtain ⟨byte, more, whole⟩ := List.exists_cons_of_ne_nil (written character).ne_nil
          rw [whole, List.cons_append]
          exact List.nil_lt_cons ..
  | cons character rest ih =>
      cases right with
      | nil => exact absurd less (List.not_lt_nil _)
      | cons other more =>
          rw [List.flatMap_cons, List.flatMap_cons]
          rcases List.cons_lt_cons_iff.mp less with smaller | ⟨rfl, later⟩
          · exact lt_of_written (written character) (written other) smaller _ _
          · exact List.append_left_lt (ih later)

theorem encode_lt_encode {left right : String} (less : left < right) : encode left < encode right := by
  rw [encode_eq, encode_eq]
  exact flatMap_encodeChar_lt less

end GuestStorage.Utf8
