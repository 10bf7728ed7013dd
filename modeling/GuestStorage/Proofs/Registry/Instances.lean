import GuestStorage.Archive.Registry
import GuestStorage.Proofs.Host.Regions
import GuestStorage.Proofs.Registry.Words

namespace GuestStorage

inductive SaveInstance
  | title (programId : UInt64)
  | extended (high low : UInt32)
  | shared (high low : UInt32)
  | system (high low : UInt32)
  deriving DecidableEq, Repr

namespace SaveInstance

def named? (running : UInt64) : ArchiveId → GuestPath → Option SaveInstance
  | .saveData, _ => some (title running)
  | .extSaveData, path => some (extended (path.word 2) (path.word 1))
  | .sharedExtSaveData, path => some (shared (path.word 2) (path.word 1))
  | .systemSaveData, path => some (system (path.word 0) (path.word 1))
  | .romFs, _ | .sdCard, _ | .sdCardWriteOnly, _ => none

def root (config : Config) : SaveInstance → HostPath
  | title _ | extended .. => .ofString config.paths.sdCard
  | shared .. | system .. => .ofString config.paths.nand

def names (config : Config) : SaveInstance → List String
  | title programId =>
    ["Nintendo 3DS", config.fileSystem.systemId, config.fileSystem.cardId, "title",
      Layout.lowerWord (programId >>> 32).toUInt32, Layout.lowerWord programId.toUInt32, "data"]
  | extended high low =>
    ["Nintendo 3DS", config.fileSystem.systemId, config.fileSystem.cardId, "extdata",
      Layout.upperWord high, Layout.upperWord low]
  | shared high low =>
    ["data", config.fileSystem.systemId, "extdata", Layout.upperWord high, Layout.upperWord low]
  | system high low =>
    ["data", config.fileSystem.systemId, "sysdata", Layout.upperWord low, Layout.upperWord high]

def inner : SaveInstance → List String
  | title _ => ["00000001"]
  | extended .. | shared .. => ["user"]
  | system .. => []

def remembers : SaveInstance → Bool
  | title _ | extended .. | shared .. => true
  | system .. => false

def kind : SaveInstance → MountKind
  | title _ | system .. => .saveData
  | extended .. | shared .. => .extSaveData

def mount (config : Config) (save : SaveInstance) : Mount :=
  ⟨save.kind, (save.root config).descendant (save.names config ++ save.inner)⟩

def home (config : Config) (host : Host) (save : SaveInstance) : Location :=
  host.site (save.root config) ++ save.names config

def area (config : Config) (host : Host) (save : SaveInstance) : Location :=
  save.home config host ++ save.inner

def metadata (config : Config) (host : Host) (save : SaveInstance) : Location :=
  save.home config host ++ ["metadata"]

end SaveInstance

/-- Two empty directories, neither inside the other, and identifiers that are single names. -/
structure Config.Prepared (config : Config) (host : Host) : Prop where
  card : host.isDirectory (.ofString config.paths.sdCard) = true
  nand : host.isDirectory (.ofString config.paths.nand) = true
  cardEmpty : ∀ location, StrictlyBelow (host.site (.ofString config.paths.sdCard)) location →
    host.tree.find? location = none
  nandEmpty : ∀ location, StrictlyBelow (host.site (.ofString config.paths.nand)) location →
    host.tree.find? location = none
  cardBeside : ¬ StrictlyBelow (host.site (.ofString config.paths.nand))
    (host.site (.ofString config.paths.sdCard))
  nandBeside : ¬ StrictlyBelow (host.site (.ofString config.paths.sdCard))
    (host.site (.ofString config.paths.nand))
  systemId : OrdinaryName config.fileSystem.systemId
  cardId : OrdinaryName config.fileSystem.cardId

namespace SaveInstance

variable {config : Config} {host : Host} {save left right : SaveInstance}

theorem root_directory (prepared : config.Prepared host) (save : SaveInstance) :
    host.isDirectory (save.root config) = true := by
  cases save with
  | title | extended => exact prepared.card
  | shared | system => exact prepared.nand

theorem root_empty (prepared : config.Prepared host) (save : SaveInstance) :
    ∀ location, StrictlyBelow (host.site (save.root config)) location →
      host.tree.find? location = none := by
  cases save with
  | title | extended => exact prepared.cardEmpty
  | shared | system => exact prepared.nandEmpty

theorem not_strictlyBelow_self (site : Location) : ¬ StrictlyBelow site site := by
  rintro ⟨rest, nonempty, same⟩
  exact nonempty (List.self_eq_append_right.mp same)

theorem root_beside (prepared : config.Prepared host) (left right : SaveInstance) :
    ¬ StrictlyBelow (host.site (left.root config)) (host.site (right.root config)) := by
  cases left with
  | title | extended =>
      cases right with
      | title | extended => exact not_strictlyBelow_self _
      | shared | system => exact prepared.nandBeside
  | shared | system =>
      cases right with
      | title | extended => exact prepared.cardBeside
      | shared | system => exact not_strictlyBelow_self _

theorem names_ne_nil (config : Config) (save : SaveInstance) : save.names config ≠ [] := by
  cases save <;> simp [names]

theorem ordinary_names (prepared : config.Prepared host) (save : SaveInstance) :
    ∀ name ∈ save.names config, OrdinaryName name := by
  have console : OrdinaryName "Nintendo 3DS" := by decide
  have data : OrdinaryName "data" := by decide
  have title : OrdinaryName "title" := by decide
  have extdata : OrdinaryName "extdata" := by decide
  have sysdata : OrdinaryName "sysdata" := by decide
  cases save <;> simp [names, prepared.systemId, prepared.cardId, console, data, title, extdata, sysdata,
    Layout.ordinaryName_upperWord, Layout.ordinaryName_lowerWord]

theorem eq_of_names_above (above : left.names config <+: right.names config) : left = right := by
  -- Kinds differ in the first name or in the one that holds the instances; within a kind the words differ.
  cases left with
  | title programId =>
      cases right with
      | title other =>
          simp only [names, List.cons_prefix_cons] at above
          rw [Layout.programId_injective (Layout.lowerWord_injective above.2.2.2.2.1)
            (Layout.lowerWord_injective above.2.2.2.2.2.1)]
      | extended | shared | system => simp [names, List.cons_prefix_cons] at above
  | extended high low =>
      cases right with
      | extended otherHigh otherLow =>
          simp only [names, List.cons_prefix_cons] at above
          rw [Layout.upperWord_injective above.2.2.2.2.1, Layout.upperWord_injective above.2.2.2.2.2.1]
      | title | shared | system => simp [names, List.cons_prefix_cons] at above
  | shared high low =>
      cases right with
      | shared otherHigh otherLow =>
          simp only [names, List.cons_prefix_cons] at above
          rw [Layout.upperWord_injective above.2.2.2.1, Layout.upperWord_injective above.2.2.2.2.1]
      | title | extended | system => simp [names, List.cons_prefix_cons] at above
  | system high low =>
      cases right with
      | system otherHigh otherLow =>
          simp only [names, List.cons_prefix_cons] at above
          rw [Layout.upperWord_injective above.2.2.2.1, Layout.upperWord_injective above.2.2.2.2.1]
      | title | extended | shared => simp [names, List.cons_prefix_cons] at above

theorem prefix_of_append {site other : Location} {front back : List String}
    (beside : ¬ StrictlyBelow site other) (apart : ¬ StrictlyBelow other site)
    (above : site ++ front <+: other ++ back) : front <+: back := by
  have same : site = other := by
    rcases List.prefix_or_prefix_of_prefix ((List.prefix_append site front).trans above)
      (List.prefix_append other back) with ⟨rest, whole⟩ | ⟨rest, whole⟩
    · by_cases here : rest = []
      · rw [← whole, here, List.append_nil]
      · exact absurd ⟨rest, here, whole.symm⟩ beside
    · by_cases here : rest = []
      · rw [← whole, here, List.append_nil]
      · exact absurd ⟨rest, here, whole.symm⟩ apart
  subst same
  exact (List.prefix_append_right_inj site).mp above

theorem home_apart (prepared : config.Prepared host) (distinct : left ≠ right) :
    ¬ left.home config host <+: right.home config host := by
  intro above
  exact distinct (eq_of_names_above (prefix_of_append (root_beside prepared left right)
    (root_beside prepared right left) above))

end SaveInstance

end GuestStorage
