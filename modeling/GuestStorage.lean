import GuestStorage.Archive.Registry
import GuestStorage.CommandLine.Run
import GuestStorage.Container.Loader
import GuestStorage.Error
import GuestStorage.Host.Tree.View
import GuestStorage.Main
import GuestStorage.Proofs.Archive.FixedSizeFile
import GuestStorage.Proofs.Archive.Listings
import GuestStorage.Proofs.Archive.SaveData
import GuestStorage.Proofs.Cipher.Streaming
import GuestStorage.Proofs.Compression.Prefix
import GuestStorage.Proofs.Guest.PathEncoding
import GuestStorage.Proofs.Guest.ShortNames
import GuestStorage.Proofs.Loader.CardImage
import GuestStorage.Proofs.Loader.ProgramMemory
import GuestStorage.Proofs.Loader.SectionLayout
import GuestStorage.Proofs.Registry.ExtendedFormatting
import GuestStorage.Proofs.Registry.Handles
import GuestStorage.Proofs.Registry.Isolation
import GuestStorage.Proofs.Registry.RefusedRegistration
import GuestStorage.Proofs.Registry.Wiping
import GuestStorage.Proofs.RomFs.Dump
import GuestStorage.Proofs.RomFs.FailedReads
import GuestStorage.Proofs.RomFs.Truncation
