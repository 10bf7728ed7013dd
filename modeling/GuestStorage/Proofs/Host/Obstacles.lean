import GuestStorage.Proofs.Guest.PathGrammar
import GuestStorage.Proofs.Host.Classification
import Mathlib.Data.Nat.Find

namespace GuestStorage

namespace HostStatus

def ofObstacle : Option Entry → List String → HostStatus
  | none, [] => notFound
  | none, _ :: _ => pathNotFound
  | some _, [] => fileFound
  | some _, _ :: _ => fileInPath

theorem ofObstacle_ne_directoryFound (entry : Option Entry) (behind : List String) :
    ofObstacle entry behind ≠ directoryFound := by
  cases entry <;> cases behind <;> simp [ofObstacle]

theorem ofObstacle_ne_invalidMountPoint (entry : Option Entry) (behind : List String) :
    ofObstacle entry behind ≠ invalidMountPoint := by
  cases entry <;> cases behind <;> simp [ofObstacle]

theorem ofObstacle_eq_fileFound {entry : Option Entry} {behind : List String} :
    ofObstacle entry behind = fileFound ↔ entry ≠ none ∧ behind = [] := by
  cases entry <;> cases behind <;> simp [ofObstacle]

theorem ofObstacle_eq_notFound {entry : Option Entry} {behind : List String} :
    ofObstacle entry behind = notFound ↔ entry = none ∧ behind = [] := by
  cases entry <;> cases behind <;> simp [ofObstacle]

end HostStatus

namespace Host

open HostPath

/-- The first names of a path, as few as can be, that do not lead to a directory. With no names at all this is
the mount point. -/
structure FirstObstacle (host : Host) (mountPoint : HostPath) (segments : List String) (count : Nat) :
    Prop where
  inside : count ≤ segments.length
  above : ∀ fewer < count, host.isDirectory (mountPoint.descendant (segments.take fewer)) = true
  here : host.isDirectory (mountPoint.descendant (segments.take count)) = false

def Unobstructed (host : Host) (mountPoint : HostPath) (segments : List String) : Prop :=
  ∀ count ≤ segments.length, host.isDirectory (mountPoint.descendant (segments.take count)) = true

variable {host : Host} {mountPoint : HostPath} {segments : List String}

theorem unobstructed_or_obstacle (host : Host) (mountPoint : HostPath) (segments : List String) :
    Unobstructed host mountPoint segments ∨ ∃ count, FirstObstacle host mountPoint segments count := by
  by_cases clear : Unobstructed host mountPoint segments
  · exact .inl clear
  · right
    have blocked : ∃ count, count ≤ segments.length ∧
        host.isDirectory (mountPoint.descendant (segments.take count)) = false := by
      simpa [Unobstructed] using clear
    obtain ⟨inside, here⟩ := Nat.find_spec blocked
    refine ⟨Nat.find blocked, inside, fun fewer less => ?_, here⟩
    have missed := Nat.find_min blocked less
    rw [not_and, Bool.not_eq_false] at missed
    exact missed (Nat.le_of_lt (Nat.lt_of_lt_of_le less inside))

theorem statusBelow_of_directory {directory : HostPath} {segment : String} (rest : List String)
    (stands : host.isDirectory (directory.child segment) = true) :
    host.statusBelow directory (segment :: rest) = host.statusBelow (directory.child segment) rest := by
  have stands : host.entryAt? (directory.child segment) = some .directory := of_decide_eq_true stands
  cases rest with
  | nil => simp only [statusBelow, leafStatus, stands]
  | cons next more => simp only [statusBelow, stands]

theorem statusBelow_of_blocked {directory : HostPath} {segment : String} (rest : List String)
    (blocked : host.isDirectory (directory.child segment) = false) :
    host.statusBelow directory (segment :: rest) =
      .ofObstacle (host.entryAt? (directory.child segment)) rest := by
  have blocked : host.entryAt? (directory.child segment) ≠ some .directory := of_decide_eq_false blocked
  cases stands : host.entryAt? (directory.child segment) with
  | none => cases rest <;> simp only [statusBelow, leafStatus, stands, HostStatus.ofObstacle]
  | some entry =>
      cases entry with
      | directory => exact absurd stands blocked
      | file id => cases rest <;> simp only [statusBelow, leafStatus, stands, HostStatus.ofObstacle]

theorem statusBelow_of_unobstructed {directory : HostPath} (clear : Unobstructed host directory segments) :
    host.statusBelow directory segments = .directoryFound := by
  induction segments generalizing directory with
  | nil => rfl
  | cons segment rest ih =>
      rw [statusBelow_of_directory rest (clear 1 (by simp))]
      exact ih fun count inside => clear (count + 1) (Nat.succ_le_succ inside)

theorem FirstObstacle.tail {segment : String} {rest : List String} {count : Nat}
    (first : FirstObstacle host mountPoint (segment :: rest) (count + 1)) :
    FirstObstacle host (mountPoint.child segment) rest count where
  inside := Nat.le_of_succ_le_succ first.inside
  above fewer less := first.above (fewer + 1) (Nat.succ_lt_succ less)
  here := first.here

theorem statusBelow_of_obstacle {directory : HostPath} {count : Nat} (onWay : 0 < count)
    (first : FirstObstacle host directory segments count) :
    host.statusBelow directory segments =
      .ofObstacle (host.entryAt? (directory.descendant (segments.take count))) (segments.drop count) := by
  induction segments generalizing directory count with
  | nil => exact absurd first.inside (Nat.not_le.mpr onWay)
  | cons segment rest ih =>
      obtain ⟨count, rfl⟩ := Nat.exists_eq_succ_of_ne_zero (Nat.ne_of_gt onWay)
      cases count with
      | zero => exact statusBelow_of_blocked rest first.here
      | succ count =>
          rw [statusBelow_of_directory rest (first.above 1 (by simp))]
          exact ih (Nat.succ_pos count) first.tail

theorem resolves_parts {tree : Tree} {place location : Location} {path : HostPath}
    (resolves : Resolves tree place path.stem (.found location .directory)) :
    Resolves tree place path.parts (.found location .directory) := by
  rw [stem] at resolves
  split at resolves
  · rename_i slash
    obtain ⟨front, whole⟩ := List.getLast?_eq_some_iff.mp slash
    rw [whole, List.dropLast_concat] at resolves
    rw [whole]
    exact resolves.append (.stay resolves.stands rfl (.done resolves.stands))
  · exact resolves

theorem locate_of_directory {location : Location} (written : mountPoint.isEmpty = false)
    (proper : ∀ segment ∈ segments, Proper segment)
    (clear : hasZero (mountPoint.descendant segments) = false)
    (resolves : Resolves host.tree (host.start mountPoint) (mountPoint.stem ++ segments)
      (.found location .directory)) :
    host.locate (mountPoint.descendant segments) = .ok (.found location .directory) := by
  cases segments with
  | nil =>
      rw [List.append_nil] at resolves
      exact locate_of_resolves clear written (resolves_parts resolves)
  | cons segment rest =>
      have named (other : String) (member : other ∈ segment :: rest) : other ≠ "" :=
        (proper other member).ne_empty
      refine locate_of_resolves clear (isEmpty_descendant proper) ?_
      rw [start_descendant host mountPoint proper,
        parts_descendant mountPoint (List.cons_ne_nil segment rest) named]
      exact resolves

theorem isDirectory_above {front back : List String} (written : mountPoint.isEmpty = false)
    (proper : ∀ segment ∈ front ++ back, Proper segment) (nonempty : back ≠ []) {entry : Entry}
    (stands : host.entryAt? (mountPoint.descendant (front ++ back)) = some entry) :
    host.isDirectory (mountPoint.descendant front) = true := by
  have located := locate_of_lookup (entryAt?_eq_some_iff.mp stands)
  have clear := hasZero_of_locate located
  have resolves := resolves_of_locate located
  rw [start_descendant host mountPoint proper, parts_descendant mountPoint (by simp [nonempty])
    fun segment member => (proper segment member).ne_empty, ← List.append_assoc] at resolves
  obtain ⟨between, middle, first, second⟩ := resolves.split rfl
  have directory : host.tree.find? between = some .directory := by
    obtain ⟨segment, rest, rfl⟩ := List.exists_cons_of_ne_nil nonempty
    cases second with
    | stay directory => exact directory
    | up directory => exact directory
    | down directory => exact directory
  rw [first.stands] at directory
  cases directory
  have properFront (segment : String) (member : segment ∈ front) : Proper segment :=
    proper segment (List.mem_append_left back member)
  rw [hasZero_descendant mountPoint proper, List.any_append, ← Bool.or_assoc, Bool.or_eq_false_iff,
    ← hasZero_descendant mountPoint properFront] at clear
  rw [isDirectory, entryAt?, lookup, locate_of_directory written properFront clear.1 first]
  rfl

theorem isDirectory_take (written : mountPoint.isEmpty = false)
    (proper : ∀ segment ∈ segments, Proper segment) {entry : Entry}
    (stands : host.entryAt? (mountPoint.descendant segments) = some entry) {count : Nat}
    (less : count < segments.length) :
    host.isDirectory (mountPoint.descendant (segments.take count)) = true := by
  rw [← List.take_append_drop count segments] at proper stands
  refine isDirectory_above written proper (fun none => ?_) stands
  exact Nat.not_le.mpr less (List.drop_eq_nil_iff.mp none)

theorem unobstructed_of_directory (written : mountPoint.isEmpty = false)
    (proper : ∀ segment ∈ segments, Proper segment)
    (stands : host.isDirectory (mountPoint.descendant segments) = true) :
    Unobstructed host mountPoint segments := by
  intro count inside
  rcases Nat.lt_or_eq_of_le inside with less | rfl
  · exact isDirectory_take written proper (of_decide_eq_true stands) less
  · rwa [List.take_length]

/-- How a path below a directory is classified: by the first place on the way that is not a directory, and
so by what stands at the whole path. -/
structure Decided (host : Host) (mountPoint : HostPath) (segments : List String) (status : HostStatus) :
    Prop where
  root : segments = [] → status = .directoryFound
  either : Unobstructed host mountPoint segments ∨ ∃ count, FirstObstacle host mountPoint segments count
  unobstructed : Unobstructed host mountPoint segments → status = .directoryFound
  obstacle : ∀ count, FirstObstacle host mountPoint segments count → status =
    .ofObstacle (host.entryAt? (mountPoint.descendant (segments.take count))) (segments.drop count)
  directoryFound : status = .directoryFound ↔
    host.isDirectory (mountPoint.descendant segments) = true
  fileFound : status = .fileFound ↔ ∃ id, host.entryAt? (mountPoint.descendant segments) = some (.file id)
  notFound : status = .notFound ↔ ∃ parents name, segments = parents ++ [name] ∧
    host.isDirectory (mountPoint.descendant parents) = true ∧
    host.entryAt? (mountPoint.descendant segments) = none

theorem FirstObstacle.positive {count : Nat} (first : FirstObstacle host mountPoint segments count)
    (directory : host.isDirectory mountPoint = true) : 0 < count := by
  apply Nat.pos_of_ne_zero
  rintro rfl
  have here : host.isDirectory mountPoint = false := first.here
  rw [directory] at here
  contradiction

section

variable (directory : host.isDirectory mountPoint = true) (proper : ∀ segment ∈ segments, Proper segment)

include directory

theorem isEmpty_of_isDirectory : mountPoint.isEmpty = false :=
  isEmpty_of_locate (locate_of_lookup (isDirectory_iff.mp directory))

theorem statusBelow_of_above
    (above : ∀ fewer < segments.length,
      host.isDirectory (mountPoint.descendant (segments.take fewer)) = true)
    (here : host.isDirectory (mountPoint.descendant segments) = false) :
    host.statusBelow mountPoint segments =
      .ofObstacle (host.entryAt? (mountPoint.descendant segments)) [] := by
  have first : FirstObstacle host mountPoint segments segments.length :=
    ⟨Nat.le_refl _, above, by rwa [List.take_length]⟩
  rw [statusBelow_of_obstacle (first.positive directory) first, List.take_length, List.drop_length]

theorem whole_of_obstacle {result : HostStatus} (decides : host.statusBelow mountPoint segments = result)
    (other : result ≠ .directoryFound)
    (last : ∀ entry behind, HostStatus.ofObstacle entry behind = result → behind = []) :
    FirstObstacle host mountPoint segments segments.length ∧
      .ofObstacle (host.entryAt? (mountPoint.descendant segments)) [] = result := by
  rcases unobstructed_or_obstacle host mountPoint segments with clear | ⟨count, first⟩
  · exact absurd (decides.symm.trans (statusBelow_of_unobstructed clear)) other
  · rw [statusBelow_of_obstacle (first.positive directory) first] at decides
    have behind := last _ _ decides
    have whole : count = segments.length :=
      Nat.le_antisymm first.inside (List.drop_eq_nil_iff.mp behind)
    subst whole
    rw [List.take_length, behind] at decides
    exact ⟨first, decides⟩

theorem statusBelow_ne_invalidMountPoint : host.statusBelow mountPoint segments ≠ .invalidMountPoint := by
  rcases unobstructed_or_obstacle host mountPoint segments with clear | ⟨count, first⟩
  · rw [statusBelow_of_unobstructed clear]
    decide
  · rw [statusBelow_of_obstacle (first.positive directory) first]
    exact HostStatus.ofObstacle_ne_invalidMountPoint _ _

include proper

theorem statusBelow_eq_directoryFound_iff : host.statusBelow mountPoint segments = .directoryFound ↔
    host.isDirectory (mountPoint.descendant segments) = true := by
  constructor
  · intro found
    rcases unobstructed_or_obstacle host mountPoint segments with clear | ⟨count, first⟩
    · have stands := clear segments.length (Nat.le_refl _)
      rwa [List.take_length] at stands
    · rw [statusBelow_of_obstacle (first.positive directory) first] at found
      exact absurd found (HostStatus.ofObstacle_ne_directoryFound _ _)
  · intro stands
    exact statusBelow_of_unobstructed
      (unobstructed_of_directory (isEmpty_of_isDirectory directory) proper stands)

theorem statusBelow_eq_fileFound_iff : host.statusBelow mountPoint segments = .fileFound ↔
    ∃ id, host.entryAt? (mountPoint.descendant segments) = some (.file id) := by
  constructor
  · intro found
    obtain ⟨first, decides⟩ := whole_of_obstacle directory found (by decide) fun _ _ same =>
      (HostStatus.ofObstacle_eq_fileFound.mp same).2
    obtain ⟨entry, stands⟩ := Option.ne_none_iff_exists'.mp (HostStatus.ofObstacle_eq_fileFound.mp decides).1
    have here := first.here
    rw [List.take_length, isDirectory, stands] at here
    cases entry with
    | directory => simp at here
    | file id => exact ⟨id, stands⟩
  · rintro ⟨id, stands⟩
    have above (fewer : Nat) (less : fewer < segments.length) :=
      isDirectory_take (isEmpty_of_isDirectory directory) proper stands less
    rw [statusBelow_of_above directory above (by rw [isDirectory, stands]; rfl), stands]
    rfl

theorem statusBelow_eq_notFound_iff : host.statusBelow mountPoint segments = .notFound ↔
    ∃ parents name, segments = parents ++ [name] ∧
      host.isDirectory (mountPoint.descendant parents) = true ∧
      host.entryAt? (mountPoint.descendant segments) = none := by
  constructor
  · intro found
    obtain ⟨first, decides⟩ := whole_of_obstacle directory found (by decide) fun _ _ same =>
      (HostStatus.ofObstacle_eq_notFound.mp same).2
    have some := first.positive directory
    have nonempty := List.length_pos_iff.mp some
    have parent := first.above (segments.length - 1) (Nat.sub_lt some Nat.one_pos)
    rw [← List.dropLast_eq_take] at parent
    exact ⟨segments.dropLast, segments.getLast nonempty, (List.dropLast_concat_getLast nonempty).symm, parent,
      (HostStatus.ofObstacle_eq_notFound.mp decides).1⟩
  · rintro ⟨parents, name, rfl, parent, absent⟩
    have clear := unobstructed_of_directory (isEmpty_of_isDirectory directory)
      (fun segment member => proper segment (List.mem_append_left _ member)) parent
    rw [statusBelow_of_above directory ?_ (by rw [isDirectory, absent]; rfl), absent]
    · rfl
    · intro fewer less
      have inside : fewer ≤ parents.length := by simpa [Nat.lt_succ_iff] using less
      rw [List.take_append_of_le_length inside]
      exact clear fewer inside

theorem statusBelow_decided : Decided host mountPoint segments (host.statusBelow mountPoint segments) where
  root empty := by rw [empty, statusBelow]
  either := unobstructed_or_obstacle host mountPoint segments
  unobstructed := statusBelow_of_unobstructed
  obstacle _ first := statusBelow_of_obstacle (first.positive directory) first
  directoryFound := statusBelow_eq_directoryFound_iff directory proper
  fileFound := statusBelow_eq_fileFound_iff directory proper
  notFound := statusBelow_eq_notFound_iff directory proper

end

/-- Every guest path is classified by the first place on its way that is not a directory. Where the mount point
itself is none, nothing is found behind it either. -/
theorem status_decided (host : Host) (mountPoint : HostPath) (path : GuestPath) :
    (host.status mountPoint path.segments = .invalidMountPoint ↔ host.isDirectory mountPoint = false) ∧
      (host.isDirectory mountPoint = true →
        Decided host mountPoint path.segments (host.status mountPoint path.segments)) ∧
      (host.isDirectory mountPoint = false → mountPoint.isEmpty = false → path.segments ≠ [] →
        host.entryAt? (mountPoint.descendant path.segments) = none) := by
  refine ⟨?_, fun directory => ?_, fun blocked written nonempty => ?_⟩
  · rw [status]
    split
    · rename_i directory
      simp only [directory, Bool.true_eq_false, iff_false]
      exact statusBelow_ne_invalidMountPoint directory
    · rename_i blocked
      simpa using blocked
  · rw [status, if_pos directory]
    exact statusBelow_decided directory path.proper_segments
  · cases stands : host.entryAt? (mountPoint.descendant path.segments) with
    | none => rfl
    | some entry =>
        have above := isDirectory_take written path.proper_segments stands (List.length_pos_iff.mpr nonempty)
        rw [List.take_zero, descendant, List.foldl_nil, blocked] at above
        contradiction

def emptyCard : Host := (Host.empty []).addDirectory ["m"]

def singleFile : Host := emptyCard.addFile ["m", "f"]

theorem status_decided_singleFile :
    FirstObstacle singleFile (.ofString "/m") (GuestPath.segments (.char "/f/x/")) 1 ∧
      singleFile.status (.ofString "/m") (GuestPath.segments (.char "/f/x/")) = .fileInPath := by
  have parsed : GuestPath.segments (.char "/f/x/") = ["f", "x"] := by decide +kernel
  have first : FirstObstacle singleFile (.ofString "/m") (GuestPath.segments (.char "/f/x/")) 1 := by
    rw [parsed]
    exact ⟨by decide, by decide +kernel, by decide +kernel⟩
  have directory : singleFile.isDirectory (.ofString "/m") = true := by decide +kernel
  have decided := (status_decided singleFile (.ofString "/m") (.char "/f/x/")).2.1 directory
  have found : singleFile.entryAt? ((HostPath.ofString "/m").descendant ["f"]) = some (.file 0) := by
    decide +kernel
  refine ⟨first, ?_⟩
  rw [decided.obstacle 1 first, parsed, List.take_succ_cons, List.take_zero, found]
  rfl

end Host

end GuestStorage
