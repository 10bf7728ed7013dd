import GuestStorage.Container.Loader

namespace GuestStorage.Summary

def yesOrNo (value : Bool) : String := if value then "true" else "false"

def fact (label value : String) : String := Numeral.alignLeft 17 (label ++ ":") ++ value

def address (value : UInt32) : String := "0x" ++ Numeral.fixedUpper 8 value.toNat

def encryption : Option ContainerCrypto → String
  | none => "no"
  | some crypto =>
    "yes (crypto7: " ++ yesOrNo crypto.usesSecondKey ++ ", crypto9: " ++
      yesOrNo crypto.announcesThirdKey ++ ")"

def headerLines (loader : Loader) (kind : ContainerKind) : List String :=
  [fact "Type" kind.name, fact "Product code" loader.header.productCode,
    fact "Program ID" (Numeral.fixedUpper 16 loader.programId.toNat),
    fact "Version" (toString loader.header.version.toNat),
    fact "Encrypted" (encryption loader.crypto)]

def extendedHeaderLines (header : ExtendedHeader) : List String :=
  [fact "Name" header.processName, fact "Entry point" (address header.entryPoint),
    fact "Code size" (address header.codeSize),
    fact "Compressed" (yesOrNo header.isCompressed),
    fact "Stack size" (address header.stackSize), fact "Bss size" (address header.bssSize),
    fact "Priority" (Numeral.shortUpper header.priority.toNat),
    fact "Core version" (toString header.coreVersion.toNat)]

def sectionLine (entry : Section) : String :=
  "  " ++ Numeral.alignLeft 8 (Utf8.decode entry.name) ++ " offset " ++ address entry.offset ++
    " size " ++ address entry.size

def sectionLines (table : SectionTable) : List String :=
  "Sections:" :: (table.filter (·.name ≠ [])).map sectionLine

def romFsLine : Except LoaderError RomFsImage → String
  | .error cause => fact "RomFS" cause.message
  | .ok image =>
    fact "RomFS" (Numeral.shortUpper image.size.toNat ++ " bytes at " ++
      Numeral.shortUpper image.offset.toNat)

def lines (loader : Loader) (medium : Medium) : List String :=
  headerLines loader medium.containerKind ++
    (loader.extendedHeader.map extendedHeaderLines).getD [] ++ sectionLines loader.sections ++
    [romFsLine (loader.readRomFs medium).2]

end GuestStorage.Summary
