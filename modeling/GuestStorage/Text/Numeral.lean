namespace GuestStorage.Numeral

def lowerDigit (value : Nat) : Char := Nat.digitChar (value % 16)

def upperDigit (value : Nat) : Char := (lowerDigit value).toUpper

def fixedDigits (digit : Nat → Char) : Nat → Nat → List Char
  | 0, _ => []
  | width + 1, value => fixedDigits digit width (value / 16) ++ [digit value]

def fixedUpper (width value : Nat) : String := String.ofList (fixedDigits upperDigit width value)

def fixedLower (width value : Nat) : String := String.ofList (fixedDigits lowerDigit width value)

def shortUpper (value : Nat) : String :=
  "0x" ++ String.ofList ((Nat.toDigits 16 value).map Char.toUpper)

def ofBytes (data : List UInt8) : String :=
  String.ofList (data.flatMap fun byte => fixedDigits lowerDigit 2 byte.toNat)

def alignRight (width : Nat) (text : String) : String :=
  String.ofList (text.toList.leftpad width ' ')

def alignLeft (width : Nat) (text : String) : String :=
  String.ofList (text.toList.rightpad width ' ')

@[simp] theorem length_fixedDigits (digit : Nat → Char) (width value : Nat) :
    (fixedDigits digit width value).length = width := by
  induction width generalizing value with
  | zero => rfl
  | succ width ih => simp [fixedDigits, ih]

end GuestStorage.Numeral
