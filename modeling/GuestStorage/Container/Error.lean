import GuestStorage.Host.Error
import GuestStorage.Text.Numeral

namespace GuestStorage

inductive FormatFault
  | badMagic (magic : List UInt8)
  | unknownVersion (version : UInt16)
  | sectionPastEnd (name : String)
  | romFsTooSmall
  | romFsPastEnd
  | segmentTooLarge (pages : UInt32)
  | bssTooLarge
  | dataTooLarge
  | other (text : String)
  deriving DecidableEq, Repr

inductive DecompressionFault
  | noFooter (size : Nat)
  | growthTooLarge (growth size : Nat)
  | rangesTooLarge (top bottom size : Nat)
  | segmentHeader
  | segmentSize
  | segmentOffset
  | other (text : String)
  deriving DecidableEq, Repr

inductive LoaderError
  | invalidFormat (fault : FormatFault)
  | encrypted
  | notLoaded
  | alreadyLoaded
  | notUsed (what : String)
  | decompression (fault : DecompressionFault)
  | io (cause : HostError)
  deriving DecidableEq, Repr

def FormatFault.message : FormatFault → String
  | badMagic magic => "Bad NCCH magic: " ++ Numeral.ofBytes magic
  | unknownVersion version => "Unknown NCCH version " ++ toString version.toNat
  | sectionPastEnd name => "Section " ++ name ++ " extends past the end of the file"
  | romFsTooSmall => "RomFS smaller than its header"
  | romFsPastEnd => "RomFS extends past the end of the file"
  | segmentTooLarge pages => "Segment of " ++ toString pages.toNat ++ " pages too large"
  | bssTooLarge => "bss too large"
  | dataTooLarge => "data too large"
  | other text => text

def DecompressionFault.message : DecompressionFault → String
  | noFooter size => "Buffer of " ++ toString size ++ " bytes has no footer"
  | growthTooLarge growth size =>
    "Footer claims " ++ Numeral.shortUpper growth ++ " extra bytes for a " ++
      Numeral.shortUpper size ++ " byte buffer"
  | rangesTooLarge top bottom size =>
    "Footer ranges " ++ Numeral.shortUpper top ++ "/" ++ Numeral.shortUpper bottom ++
      " exceed buffer size " ++ Numeral.shortUpper size
  | segmentHeader => "Segment header out of bounds"
  | segmentSize => "Segment size out of bounds"
  | segmentOffset => "Segment offset out of bounds"
  | other text => text

def LoaderError.message : LoaderError → String
  | invalidFormat fault => "Invalid format: " ++ fault.message
  | encrypted => "Content is still encrypted after decryption attempt"
  | notLoaded => "Title is not loaded"
  | alreadyLoaded => "Title is already loaded"
  | notUsed what => "Not present in this container: " ++ what
  | decompression fault => "Decompression failed: " ++ fault.message
  | io cause => "IO error: " ++ cause.message

@[simp] theorem ok_bind {ε α β : Type} (value : α) (next : α → Except ε β) :
    (Except.ok value >>= next) = next value := rfl

theorem bind_eq_ok {ε α β : Type} {first : Except ε α} {next : α → Except ε β} {result : β} :
    first >>= next = .ok result ↔ ∃ value, first = .ok value ∧ next value = .ok result := by
  cases first with
  | error cause => simp [bind, Except.bind]
  | ok value => simp [bind, Except.bind]

end GuestStorage
