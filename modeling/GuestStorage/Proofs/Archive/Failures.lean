import GuestStorage.Proofs.Archive.Operations

namespace GuestStorage.Mount

variable {mount : Mount} {host changed : Host} {operation : Operation} {code : ResultCode}

/-- The operation makes a file that is to be larger than any file of the host. -/
def Overgrows (mount : Mount) (host : Host) : Operation → Prop
  | .createFile path size => Medium.limit ≤ size.toNat ∧ ∃ location, mount.Vacant host path location
  | .openFile .. | .deleteFile _ | .createDirectory _ | .deleteDirectory _
  | .deleteDirectoryRecursively _ | .openDirectory _ | .rename .. => False

theorem Performed.eq_of_error (performed : Performed mount host operation changed (.error code))
    (bounded : ¬ mount.Overgrows host operation) : changed = host := by
  cases performed with
  | refused => rfl
  | leftEmpty vacant oversized => exact absurd ⟨oversized, _, vacant⟩ bounded

theorem perform_of_overgrows (overgrows : mount.Overgrows host operation) :
    ∃ location, mount.perform host operation = (host.addFile location, .error .tooLarge) ∧
      StrictlyBelow (host.site mount.mountPoint) location ∧ host.tree.find? location = none := by
  cases operation with
  | createFile path size =>
      obtain ⟨oversized, location, vacant⟩ := overgrows
      have supported : ¬ (mount.kind = .extSaveData ∧ size = 0) := by
        rintro ⟨-, rfl⟩
        exact absurd oversized (by decide)
      refine ⟨location, ?_, vacant.leads.below, vacant.free⟩
      rw [perform, createFile_of_vacant vacant supported, if_pos oversized]
      rfl
  | _ => exact overgrows.elim

theorem addFile_ne_self (host : Host) (location : Location) : host.addFile location ≠ host := by
  intro same
  have count := congrArg (·.files.length) same
  simp [Host.addFile] at count

/-- A failed operation changes nothing if and only if it is not such a creation. -/
theorem perform_eq_self_iff (fails : (mount.perform host operation).2 = .error code) :
    (mount.perform host operation).1 = host ↔ ¬ mount.Overgrows host operation := by
  constructor
  · intro same overgrows
    obtain ⟨location, performs, -⟩ := perform_of_overgrows overgrows
    rw [performs] at same
    exact addFile_ne_self host location same
  · intro bounded
    have performed := mount.perform_performed host operation
    rw [fails] at performed
    exact performed.eq_of_error bounded

theorem delete_missing_eq_self :
    (perform ⟨.disk, .ofString "/m"⟩ Host.emptyCard (.deleteFile (.char "/f"))).1 = Host.emptyCard := by
  have refused : (perform ⟨.disk, .ofString "/m"⟩ Host.emptyCard (.deleteFile (.char "/f"))).2 =
      .error .notFound := by decide +kernel
  exact (perform_eq_self_iff refused).mpr fun overgrows => overgrows

theorem oversized_file_remains :
    (perform ⟨.disk, .ofString "/m"⟩ Host.emptyCard (.createFile (.char "/f") 0x8000000000000001)).2 =
        .error .tooLarge ∧
      (perform ⟨.disk, .ofString "/m"⟩ Host.emptyCard
        (.createFile (.char "/f") 0x8000000000000001)).1 ≠ Host.emptyCard ∧
      (perform ⟨.disk, .ofString "/m"⟩
        (perform ⟨.disk, .ofString "/m"⟩ Host.emptyCard
          (.createFile (.char "/f") 0x8000000000000001)).1 (.createFile (.char "/f") 0)).2 =
        .error .alreadyExists := by
  refine ⟨by decide +kernel, fun same => ?_, by decide +kernel⟩
  have stands := congrArg (·.tree.find? ["m", "f"]) same
  revert stands
  decide +kernel

end GuestStorage.Mount
