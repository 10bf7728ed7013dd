import GuestStorage.Proofs.Host.Placement

namespace GuestStorage

namespace GuestPath

structure Legal (name : List Char) : Prop where
  nonempty : name ≠ []
  notHere : name ≠ ['.']
  notUp : name ≠ ['.', '.']
  undivided : '/' ∉ name
  allowed : ∀ hostile ∈ ['<', '>', '\\', '|', ':', '"', '*', '?'], hostile ∉ name

/-- A slash, the names with single slashes between them, and at most one more slash. -/
def Spells (text : String) (names : List String) : Prop :=
  (∀ name ∈ names, Legal name.toList) ∧
    ∃ last, (last = "" ∨ last = "/") ∧ text = "/" ++ "/".intercalate names ++ last

def IsText (path : GuestPath) : Prop := path.encoding = .char ∨ path.encoding = .wide

@[simp] theorem isForbidden_iff (character : Char) :
    isForbidden character = true ↔ character ∈ ['<', '>', '\\', '|', ':', '"', '*', '?'] :=
  List.contains_iff_mem

@[simp] theorem isSegment_iff (piece : List Char) :
    isSegment piece = true ↔ piece ≠ [] ∧ piece ≠ ['.'] ∧ piece ≠ ['.', '.'] := by
  simp only [isSegment, Bool.and_eq_true, decide_eq_true_eq, and_assoc]

theorem mem_intercalate {pieces : List (List Char)} {character : Char}
    (member : character ∈ ['/'].intercalate pieces) : character = '/' ∨ ∃ piece ∈ pieces, character ∈ piece := by
  induction pieces with
  | nil => cases member
  | cons piece rest ih =>
      by_cases last : rest = []
      · rw [last, List.intercalate_singleton] at member
        exact .inr ⟨piece, List.mem_cons_self, member⟩
      · rw [List.intercalate_cons_of_ne_nil last, List.mem_append, List.mem_append, List.mem_singleton] at member
        rcases member with (here | slash) | later
        · exact .inr ⟨piece, List.mem_cons_self, here⟩
        · exact .inl slash
        · rcases ih later with slash | ⟨other, among, inside⟩
          · exact .inl slash
          · exact .inr ⟨other, List.mem_cons_of_mem _ among, inside⟩

theorem of_mem_splitOn {text piece : List Char} (member : piece ∈ text.splitOn '/') :
    '/' ∉ piece ∧ piece ⊆ text := by
  induction text generalizing piece with
  | nil =>
      rw [List.splitOn_nil, List.mem_singleton] at member
      rw [member]
      exact ⟨List.not_mem_nil, List.nil_subset _⟩
  | cons character rest ih =>
      rw [List.splitOn_cons_eq_if_modifyHead] at member
      split at member
      · rcases List.mem_cons.mp member with rfl | later
        · exact ⟨List.not_mem_nil, List.nil_subset _⟩
        · obtain ⟨undivided, among⟩ := ih later
          exact ⟨undivided, List.subset_cons_of_subset _ among⟩
      · rename_i other
        obtain ⟨first, pieces, parts⟩ := List.exists_cons_of_ne_nil (List.splitOn_ne_nil '/' rest)
        rw [parts, List.modifyHead_cons] at member
        rcases List.mem_cons.mp member with rfl | later
        · obtain ⟨undivided, among⟩ := ih (show first ∈ rest.splitOn '/' by simp [parts])
          refine ⟨?_, List.cons_subset_cons _ among⟩
          rw [List.mem_cons, not_or]
          exact ⟨fun slash => other (by simp [← slash]), undivided⟩
        · obtain ⟨undivided, among⟩ := ih (show piece ∈ rest.splitOn '/' by simp [parts, later])
          exact ⟨undivided, List.subset_cons_of_subset _ among⟩

theorem intercalate_ne_nil {pieces : List (List Char)} (some : pieces ≠ [])
    (legal : ∀ piece ∈ pieces, Legal piece) : ['/'].intercalate pieces ≠ [] := by
  obtain ⟨piece, rest, rfl⟩ := List.exists_cons_of_ne_nil some
  have nonempty := (legal piece List.mem_cons_self).nonempty
  by_cases last : rest = []
  · rwa [last, List.intercalate_singleton]
  · rw [List.intercalate_cons_of_ne_nil last]
    simp [nonempty]

theorem getLast?_intercalate {pieces : List (List Char)} (legal : ∀ piece ∈ pieces, Legal piece) :
    (['/'].intercalate pieces).getLast? ≠ some '/' := by
  induction pieces with
  | nil => nofun
  | cons piece rest ih =>
      by_cases last : rest = []
      · rw [last, List.intercalate_singleton]
        exact fun slash => (legal piece List.mem_cons_self).undivided (List.mem_of_getLast? slash)
      · have later : ∀ piece ∈ rest, Legal piece := fun piece member => legal piece (List.mem_cons_of_mem _ member)
        have nonempty := intercalate_ne_nil last later
        rw [List.intercalate_cons_of_ne_nil last, List.getLast?_append,
          List.getLast?_eq_some_getLast nonempty, Option.some_or, ← List.getLast?_eq_some_getLast nonempty]
        exact ih later

theorem dropTrailingSlash_append {core last : List Char} (closed : core.getLast? ≠ some '/')
    (slash : last = [] ∨ last = ['/']) : dropTrailingSlash (core ++ last) = core := by
  rcases slash with rfl | rfl
  · rw [List.append_nil, dropTrailingSlash, if_neg closed]
  · rw [dropTrailingSlash, List.getLast?_concat, if_pos rfl, List.dropLast_concat]

theorem exists_trailing (text : List Char) :
    ∃ last, (last = [] ∨ last = ['/']) ∧ text = dropTrailingSlash text ++ last := by
  rw [dropTrailingSlash]
  split
  · rename_i slash
    obtain ⟨front, whole⟩ := List.getLast?_eq_some_iff.mp slash
    exact ⟨['/'], .inr rfl, by rw [whole, List.dropLast_concat]⟩
  · exact ⟨[], .inl rfl, (List.append_nil _).symm⟩

theorem parseText_of_legal {pieces : List (List Char)} {last : List Char}
    (legal : ∀ piece ∈ pieces, Legal piece) (slash : last = [] ∨ last = ['/']) :
    parseText ('/' :: (['/'].intercalate pieces ++ last)) = some pieces := by
  have harmless : (['/'].intercalate pieces ++ last).any isForbidden = false := by
    rw [List.any_eq_false]
    intro character member hostile
    rw [isForbidden_iff] at hostile
    have plain : character ≠ '/' := by
      rintro rfl
      exact absurd hostile (by decide)
    rcases List.mem_append.mp member with inside | after
    · rcases mem_intercalate inside with divides | ⟨piece, among, inside⟩
      · exact plain divides
      · exact (legal piece among).allowed character hostile inside
    · rcases slash with rfl | rfl
      · cases after
      · exact plain (List.mem_singleton.mp after)
  rw [parseText, if_neg (by simp [harmless]), splitSegments,
    dropTrailingSlash_append (getLast?_intercalate legal) slash]
  by_cases root : pieces = []
  · rw [root]
    rfl
  · have split : (['/'].intercalate pieces).splitOn '/' = pieces :=
      List.splitOn_intercalate '/' (fun piece among => (legal piece among).undivided) root
    have accepted : pieces.all isSegment = true := by
      rw [List.all_eq_true]
      intro piece among
      have := legal piece among
      exact (isSegment_iff piece).mpr ⟨this.nonempty, this.notHere, this.notUp⟩
    split
    · rename_i empty
      exact absurd empty (intercalate_ne_nil root legal)
    · simp only [split, accepted, if_true]

theorem legal_of_parseText {text : List Char} {pieces : List (List Char)}
    (parsed : parseText text = some pieces) :
    (∀ piece ∈ pieces, Legal piece) ∧
      ∃ last, (last = [] ∨ last = ['/']) ∧ text = '/' :: (['/'].intercalate pieces ++ last) := by
  rw [parseText.eq_def] at parsed
  split at parsed
  · rename_i rest
    split at parsed
    · contradiction
    · rename_i harmless
      obtain ⟨last, slash, whole⟩ := exists_trailing rest
      rw [splitSegments] at parsed
      split at parsed
      · rename_i empty
        cases parsed
        rw [empty] at whole
        exact ⟨List.forall_mem_nil _, last, slash, by rw [whole]; rfl⟩
      · dsimp only at parsed
        split at parsed
        · rename_i accepted
          cases parsed
          refine ⟨fun piece member => ?_, last, slash, by rw [List.intercalate_splitOn, ← whole]⟩
          obtain ⟨undivided, among⟩ := of_mem_splitOn member
          obtain ⟨nonempty, notHere, notUp⟩ := (isSegment_iff piece).mp (List.all_eq_true.mp accepted piece member)
          refine ⟨nonempty, notHere, notUp, undivided, fun hostile listed inside => harmless ?_⟩
          rw [List.any_eq_true]
          refine ⟨hostile, ?_, (isForbidden_iff hostile).mpr listed⟩
          rw [whole]
          exact List.mem_append_left _ (among inside)
        · contradiction
  · contradiction

theorem toList_spelled (names : List String) (last : String) :
    ("/" ++ "/".intercalate names ++ last).toList =
      '/' :: (['/'].intercalate (names.map String.toList) ++ last.toList) := by
  rw [String.toList_append, String.toList_append, String.toList_intercalate]
  rfl

theorem parseText_eq_some_iff (text : String) (names : List String) :
    (parseText text.toList).map (·.map String.ofList) = some names ↔ Spells text names := by
  constructor
  · intro parsed
    obtain ⟨pieces, read, rfl⟩ := Option.map_eq_some_iff.mp parsed
    obtain ⟨legal, last, slash, whole⟩ := legal_of_parseText read
    refine ⟨fun name member => ?_, String.ofList last, ?_, ?_⟩
    · obtain ⟨piece, among, rfl⟩ := List.mem_map.mp member
      rw [String.toList_ofList]
      exact legal piece among
    · rcases slash with rfl | rfl
      · exact .inl rfl
      · exact .inr rfl
    · have back : (pieces.map String.ofList).map String.toList = pieces := by
        simp [List.map_map, Function.comp_def]
      apply String.toList_injective
      rw [toList_spelled, back, String.toList_ofList, whole]
  · rintro ⟨legal, last, slash, rfl⟩
    have pieces : ∀ piece ∈ names.map String.toList, Legal piece := by
      intro piece member
      obtain ⟨name, among, rfl⟩ := List.mem_map.mp member
      exact legal name among
    have closing : last.toList = [] ∨ last.toList = ['/'] := by
      rcases slash with rfl | rfl
      · exact .inl rfl
      · exact .inr rfl
    rw [toList_spelled, parseText_of_legal pieces closing]
    simp [List.map_map, Function.comp_def]

theorem segments?_eq_some_iff (path : GuestPath) (names : List String) :
    path.segments? = some names ↔ path.IsText ∧ Spells path.text names := by
  cases path with
  | char text =>
      exact (parseText_eq_some_iff text names).trans ⟨fun spelled => ⟨.inl rfl, spelled⟩, And.right⟩
  | wide units =>
      exact (parseText_eq_some_iff (Utf16.decode units) names).trans
        ⟨fun spelled => ⟨.inr rfl, spelled⟩, And.right⟩
  | invalid => simp [IsText, encoding, segments?]
  | empty => simp [IsText, encoding, segments?]
  | binary data => simp [IsText, encoding, segments?]

end GuestPath

namespace HostPath

/-- What a host makes of one part of a path. -/
inductive Component
  | root
  | here
  | up
  | name (text : String)
  deriving DecidableEq, Repr

def component? (part : String) : Option Component :=
  if isTrivial part then none else if part = ".." then some .up else some (.name part)

def components (path : HostPath) : List Component :=
  (if path.isAbsolute then [.root] else if path.parts.head? = some "." then [.here] else []) ++
    path.parts.filterMap component?

theorem component?_of_proper {part : String} (proper : Proper part) : component? part = some (.name part) := by
  rw [component?, proper.nontrivial, if_neg proper.notUp]
  rfl

theorem filterMap_proper {names : List String} (proper : ∀ name ∈ names, Proper name) :
    names.filterMap component? = names.map .name := by
  induction names with
  | nil => rfl
  | cons name rest ih =>
      rw [List.filterMap_cons_some (component?_of_proper (proper name List.mem_cons_self)),
        ih fun other member => proper other (List.mem_cons_of_mem _ member), List.map_cons]

@[simp] theorem filterMap_stem (path : HostPath) :
    path.stem.filterMap component? = path.parts.filterMap component? := by
  rw [stem]
  split
  · rename_i slash
    obtain ⟨front, whole⟩ := List.getLast?_eq_some_iff.mp slash
    rw [whole, List.dropLast_concat, List.filterMap_append]
    exact (List.append_nil _).symm
  · rfl

theorem head?_stem_append (path : HostPath) {names : List String} (proper : ∀ name ∈ names, Proper name) :
    (path.stem ++ names).head? = some "." ↔ path.parts.head? = some "." := by
  have named : names.head? ≠ some "." := by
    intro point
    exact absurd (proper "." (List.mem_of_head? point)).nontrivial (by decide)
  rw [stem]
  cases path.parts with
  | nil => simpa using named
  | cons part rest =>
      cases rest with
      | nil =>
          by_cases empty : part = ""
          · simpa [empty] using named
          · simp [empty]
      | cons next more => split <;> simp

theorem components_descendant (mountPoint : HostPath) {names : List String}
    (proper : ∀ name ∈ names, Proper name) :
    (mountPoint.descendant names).components = mountPoint.components ++ names.map .name := by
  by_cases nonempty : names = []
  · rw [nonempty, List.map_nil, List.append_nil]
    rfl
  · have named : ∀ name ∈ names, name ≠ "" := fun name member => (proper name member).ne_empty
    simp only [components, isAbsolute_descendant mountPoint named,
      parts_descendant mountPoint nonempty named, head?_stem_append mountPoint proper,
      List.filterMap_append, filterMap_stem, filterMap_proper proper, List.append_assoc]

end HostPath

namespace GuestPath

theorem proper_segments (path : GuestPath) : ∀ segment ∈ path.segments, HostPath.Proper segment := by
  rw [segments]
  cases parsed : path.segments? with
  | none => nofun
  | some names => exact proper_of_segments? parsed

/-- A path is valid, with certain segments, just when it is a text that spells them. What its segments spell
has the same segments, and on the host they become the components behind those of the mount point. -/
theorem segments_spelled (path : GuestPath) :
    (∀ names, (path.isValid = true ∧ path.segments = names) ↔ path.IsText ∧ Spells path.text names) ∧
      (path.isRoot = true ↔ path.isValid = true ∧ path.segments = []) ∧
      (path.isValid = true ∨ path.segments = []) ∧
      (ofSegments path.segments).segments? = some path.segments ∧
      ∀ mountPoint : HostPath, (mountPoint.descendant path.segments).components =
        mountPoint.components ++ path.segments.map .name := by
  refine ⟨fun names => ?_, ?_, ?_, ?_, fun mountPoint =>
    HostPath.components_descendant mountPoint path.proper_segments⟩
  · rw [← segments?_eq_some_iff, isValid, segments]
    cases path.segments? with
    | none => simp
    | some read => simp
  · rw [isRoot, isValid, segments]
    cases path.segments? with
    | none => simp
    | some read => simp
  · rw [isValid, segments]
    cases path.segments? with
    | none => exact .inr rfl
    | some read => exact .inl rfl
  · have legal : ∀ name ∈ path.segments, Legal name.toList := by
      rw [segments]
      cases parsed : path.segments? with
      | none => nofun
      | some read => exact ((segments?_eq_some_iff path read).mp parsed).2.1
    exact (segments?_eq_some_iff _ _).mpr ⟨.inl rfl, legal, "", .inl rfl, (String.append_empty).symm⟩

example : (char "//").isRoot = true ∧ (char "/a//").isValid = false := by decide

end GuestPath

end GuestStorage
