import GuestStorage.Text.Utf16

namespace GuestStorage.Utf16

/-- A character is its own unit, or what it has beyond sixteen bits is divided among two surrogates. -/
def encodeChar (character : Char) : Units :=
  if character.toNat < 0x10000 then [.ofNat character.toNat]
  else
    let beyond := character.toNat - 0x10000
    [.ofNat (0xD800 + beyond / 0x400), .ofNat (0xDC00 + beyond % 0x400)]

def encode (text : String) : Units := text.toList.flatMap encodeChar

inductive Written (value : Nat) : Units → Prop
  | single (short : value < 0x10000) (scalar : value < 0xD800 ∨ 0xE000 ≤ value) : Written value [.ofNat value]
  | pair {high low : Nat} (whole : value = 0x10000 + high * 0x400 + low) (highShort : high < 0x400)
      (lowShort : low < 0x400) : Written value [.ofNat (0xD800 + high), .ofNat (0xDC00 + low)]

theorem written (character : Char) : Written character.toNat (encodeChar character) := by
  have valid := character.valid
  simp only [UInt32.isValidChar, Nat.isValidChar] at valid
  rw [encodeChar, Char.toNat]
  generalize character.val.toNat = value at valid
  split
  · exact .single (by omega) (by omega)
  · exact .pair (by omega) (by omega) (by omega)

theorem toNat_unit {value : Nat} (short : value < 0x10000) : (UInt16.ofNat value).toNat = value := by
  rw [UInt16.toNat_ofNat']
  omega

theorem Written.eq_zero {value : Nat} {units : Units} (written : Written value units) (zero : 0 ∈ units) :
    value = 0 := by
  cases written <;>
    simp only [List.mem_cons, List.not_mem_nil, or_false, ← UInt16.toNat_inj, UInt16.toNat_ofNat',
      UInt16.toNat_zero] at zero
  all_goals omega

theorem zero_notMem_encode {text : String} (unterminated : '\x00' ∉ text.toList) : 0 ∉ encode text := by
  rw [encode, List.mem_flatMap]
  rintro ⟨character, member, zero⟩
  have null : character = '\x00' := Char.toNat_inj.mp ((written character).eq_zero zero)
  exact unterminated (null ▸ member)

theorem isHigh_iff (unit : UInt16) : isHigh unit = true ↔ 0xD800 ≤ unit.toNat ∧ unit.toNat < 0xDC00 := by
  simp only [isHigh, Bool.and_eq_true, decide_eq_true_eq, UInt16.le_iff_toNat_le, UInt16.lt_iff_toNat_lt]
  rfl

theorem isLow_iff (unit : UInt16) : isLow unit = true ↔ 0xDC00 ≤ unit.toNat ∧ unit.toNat < 0xE000 := by
  simp only [isLow, Bool.and_eq_true, decide_eq_true_eq, UInt16.le_iff_toNat_le, UInt16.lt_iff_toNat_lt]
  rfl

theorem decodeFrom_written {value : Nat} {units : Units} (written : Written value units) (rest : Units) :
    decodeFrom none (units ++ rest) = Char.ofNat value :: decodeFrom none rest := by
  cases written with
  | single short scalar =>
      have unit := toNat_unit short
      have notHigh : ¬ isHigh (.ofNat value) = true := by
        rw [isHigh_iff, unit]
        omega
      have notLow : ¬ isLow (.ofNat value) = true := by
        rw [isLow_iff, unit]
        omega
      simp only [List.cons_append, List.nil_append, decodeFrom, step, start, if_neg notHigh, if_neg notLow, unit]
  | @pair first second whole highShort lowShort =>
      have firstUnit := toNat_unit (show 0xD800 + first < 0x10000 by omega)
      have secondUnit := toNat_unit (show 0xDC00 + second < 0x10000 by omega)
      have high : isHigh (.ofNat (0xD800 + first)) = true := by
        rw [isHigh_iff, firstUnit]
        omega
      have low : isLow (.ofNat (0xDC00 + second)) = true := by
        rw [isLow_iff, secondUnit]
        omega
      have both : pair (.ofNat (0xD800 + first)) (.ofNat (0xDC00 + second)) = Char.ofNat value := by
        rw [pair, firstUnit, secondUnit, whole, Nat.add_sub_cancel_left, Nat.add_sub_cancel_left]
      simp only [List.cons_append, List.nil_append, decodeFrom, step, start, if_pos high, if_pos low, both]

@[simp] theorem decode_encode (text : String) : decode (encode text) = text := by
  have reads (characters : List Char) : decodeFrom none (characters.flatMap encodeChar) = characters := by
    induction characters with
    | nil => rfl
    | cons character rest ih =>
        rw [List.flatMap_cons, decodeFrom_written (written character), Char.ofNat_toNat, ih]
  rw [decode, encode, reads, String.ofList_toList]

theorem unit_of_bytes (unit : UInt16) :
    unit.toUInt8.toUInt16 ||| ((unit >>> 8).toUInt8.toUInt16 <<< 8) = unit := by
  have low : unit.toNat % 256 < 2 ^ 8 := Nat.mod_lt _ (by decide)
  have bound := unit.toNat_lt
  have high : unit.toNat >>> 8 % 256 = unit.toNat / 256 := by
    rw [Nat.shiftRight_eq_div_pow]
    omega
  have stays : (unit.toNat / 256) <<< 8 % 65536 = (unit.toNat / 256) <<< 8 := by
    rw [Nat.shiftLeft_eq]
    omega
  apply UInt16.toNat_inj.mp
  simp only [UInt16.toUInt16_toUInt8, UInt16.toNat_or, UInt16.toNat_mod, UInt16.reduceToNat,
    UInt16.toNat_shiftLeft, UInt16.toNat_shiftRight, Nat.reduceMod, Nat.reducePow]
  rw [high, stays, Nat.or_comm, ← Nat.shiftLeft_add_eq_or_of_lt low, Nat.shiftLeft_eq]
  omega

@[simp] theorem ofBytes_toBytes (units : Units) (rest : Bytes) :
    ofBytes (toBytes units ++ rest) = units ++ ofBytes rest := by
  induction units with
  | nil => rfl
  | cons unit units ih =>
      have stored : toBytes (unit :: units) ++ rest =
          unit.toUInt8 :: (unit >>> 8).toUInt8 :: (toBytes units ++ rest) := rfl
      rw [stored, ofBytes, unit_of_bytes, ih, List.cons_append]

end GuestStorage.Utf16
