import GuestStorage.Toml.Reader
import GuestStorage.Toml.Value

namespace GuestStorage.Toml.Number

def groupedRest (isDigit : Char → Bool) : List Char → Option (List Char × List Char)
  | [] => some ([], [])
  | '_' :: digit :: rest =>
    if isDigit digit then (groupedRest isDigit rest).map fun found => (digit :: found.1, found.2)
    else none
  | character :: rest =>
    if isDigit character then
      (groupedRest isDigit rest).map fun found => (character :: found.1, found.2)
    else if character = '_' then none
    else some ([], character :: rest)

def grouped (isDigit : Char → Bool) : Reader (List Char) := do
  let first ← Reader.next
  if isDigit first then
    match groupedRest isDigit (← get) with
    | none => failure
    | some (found, rest) =>
      set rest
      return first :: found
  else failure

def digitValue (digit : Char) : Nat :=
  if digit.isDigit then digit.toNat - '0'.toNat
  else if digit.isUpper then digit.toNat - 'A'.toNat + 10
  else digit.toNat - 'a'.toNat + 10

def valueOf (base : Nat) (digits : List Char) : Nat :=
  digits.foldl (fun sum digit => base * sum + digitValue digit) 0

def sign : Reader Bool := do
  match ← Reader.peek with
  | some '-' => let _ ← Reader.next; return true
  | some '+' => let _ ← Reader.next; return false
  | _ => return false

def wholeDigits : Reader (List Char) := do
  if (← Reader.peek) = some '0' then
    let _ ← Reader.next
    return ['0']
  else grouped Char.isDigit

def signed (negative : Bool) (magnitude : Nat) : Int :=
  if negative then -(magnitude : Int) else magnitude

def fitsWord (value : Int) : Bool :=
  -0x8000000000000000 ≤ value && value < 0x8000000000000000

def based (base : Nat) (isDigit : Char → Bool) : Reader Int := do
  let value := valueOf base (← grouped isDigit)
  if fitsWord value then return value else failure

def isHexDigit (digit : Char) : Bool :=
  digit.isDigit || ('a' ≤ digit && digit ≤ 'f') || ('A' ≤ digit && digit ≤ 'F')

def isOctalDigit (digit : Char) : Bool := '0' ≤ digit && digit ≤ '7'

def isBinaryDigit (digit : Char) : Bool := digit = '0' || digit = '1'

def decimal : Reader Int := do
  let negative ← sign
  let value := signed negative (valueOf 10 (← wholeDigits))
  if fitsWord value then return value else failure

def integer : Reader Int := do
  match (← get).take 2 with
  | ['0', 'x'] => Reader.word "0x"; based 16 isHexDigit
  | ['0', 'o'] => Reader.word "0o"; based 8 isOctalDigit
  | ['0', 'b'] => Reader.word "0b"; based 2 isBinaryDigit
  | _ => decimal

/-- A decimal rounds beyond every finite number. -/
def overflows (significand : Nat) (exponent : Int) : Bool :=
  let digits := (Nat.toDigits 10 significand).length
  let bound := 1 <<< 1024 - 1 <<< 970
  if significand = 0 ∨ exponent + digits < 300 then false
  else if 400 < exponent + digits then true
  else bound * Nat.pow 10 (-exponent).toNat ≤ significand * Nat.pow 10 exponent.toNat

def fraction : Reader (List Char) := do
  Reader.expect '.'
  grouped Char.isDigit

def exponent : Reader Int := do
  let mark ← Reader.next
  if mark = 'e' ∨ mark = 'E' then
    let negative ← sign
    return signed negative (valueOf 10 (← grouped Char.isDigit))
  else failure

def finite : Reader FloatLiteral := do
  let negative ← sign
  let whole ← wholeDigits
  let digits ← Reader.optional? fraction
  let power ← Reader.optional? exponent
  if digits.isNone ∧ power.isNone then failure
  else
    let places := digits.getD []
    let significand := valueOf 10 (whole ++ places)
    let scale := power.getD 0 - places.length
    if !negative ∧ overflows significand scale then failure
    else return .finite negative significand scale

def special : Reader FloatLiteral := do
  let negative ← sign
  (Reader.word "inf" *> pure (.infinite negative)) <|> (Reader.word "nan" *> pure .notANumber)

def float : Reader FloatLiteral := finite <|> special

def field (width low high : Nat) : Reader Nat := do
  let value := valueOf 10 (← Reader.count width Char.isDigit)
  if low ≤ value ∧ value ≤ high then return value else failure

def isLeap (year : Nat) : Bool := year % 4 = 0 && (year % 100 ≠ 0 || year % 400 = 0)

def daysIn (year month : Nat) : Nat :=
  if month = 2 then if isLeap year then 29 else 28
  else if month = 4 ∨ month = 6 ∨ month = 9 ∨ month = 11 then 30
  else 31

def date : Reader Date := do
  let year ← field 4 0 9999
  Reader.expect '-'
  let month ← field 2 1 12
  Reader.expect '-'
  let day ← field 2 1 (daysIn year month)
  return ⟨year, month, day⟩

/-- A minute may have one second more than sixty. -/
def timeOfDay : Reader TimeOfDay := do
  let hour ← field 2 0 23
  Reader.expect ':'
  let minute ← field 2 0 59
  Reader.expect ':'
  let second ← field 2 0 60
  let part ← Reader.optional? (Reader.expect '.' *> Reader.takeWhile1 Char.isDigit)
  return ⟨hour, minute, second, part.getD []⟩

def offset : Reader Int := do
  let mark ← Reader.next
  if mark = 'Z' ∨ mark = 'z' then return 0
  else if mark = '+' ∨ mark = '-' then
    let hours ← field 2 0 23
    Reader.expect ':'
    let minutes ← field 2 0 59
    return signed (mark = '-') (60 * hours + minutes)
  else failure

def dateSeparator : Reader Unit := do
  let mark ← Reader.next
  if mark = 'T' ∨ mark = 't' ∨ mark = ' ' then return () else failure

def dated : Reader Moment := do
  let date ← date
  let time ← Reader.optional? (dateSeparator *> timeOfDay)
  let offset ← if time.isSome then Reader.optional? offset else pure none
  return ⟨some date, time, offset⟩

def moment : Reader Moment :=
  dated <|> do return ⟨none, some (← timeOfDay), none⟩

def value : Reader Value :=
  (Value.moment <$> moment) <|> (Value.float <$> float) <|> (Value.integer <$> integer)

end GuestStorage.Toml.Number
