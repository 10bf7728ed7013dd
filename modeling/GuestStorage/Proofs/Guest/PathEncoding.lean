import GuestStorage.Proofs.Registry.ConsoleSessions
import GuestStorage.Proofs.Text.Utf16
import GuestStorage.Proofs.Text.Utf8

namespace GuestStorage

namespace Mount.Operation

def map (change : GuestPath → GuestPath) : Operation → Operation
  | openFile path mode => openFile (change path) mode
  | createFile path size => createFile (change path) size
  | deleteFile path => deleteFile (change path)
  | createDirectory path => createDirectory (change path)
  | deleteDirectory path => deleteDirectory (change path)
  | deleteDirectoryRecursively path => deleteDirectoryRecursively (change path)
  | openDirectory path => openDirectory (change path)
  | rename source target => rename (change source) (change target)

end Mount.Operation

namespace Mount

theorem resolve_congr {left right : GuestPath} (same : left.segments? = right.segments?) (mount : Mount)
    (host : Host) (operation : PathOperation) :
    mount.resolve host operation left = mount.resolve host operation right := by
  rw [resolve, resolve, same]

theorem deletable_congr {left right : GuestPath} (same : left.segments? = right.segments?) (mount : Mount)
    (host : Host) : mount.deletable host left = mount.deletable host right := by
  rw [deletable, deletable, GuestPath.isRoot, GuestPath.isRoot, same, resolve_congr same]

theorem perform_map {change : GuestPath → GuestPath} (same : ∀ path, (change path).segments? = path.segments?)
    (mount : Mount) (host : Host) (operation : Operation) :
    mount.perform host (operation.map change) = mount.perform host operation := by
  have resolves (path : GuestPath) := resolve_congr (same path) mount host
  have deletes (path : GuestPath) := deletable_congr (same path) mount host
  have validates (path : GuestPath) : (change path).isValid = path.isValid := by
    rw [GuestPath.isValid, GuestPath.isValid, same]
  cases operation with
  | openFile path mode => simp only [Operation.map, perform, openFile, openWith, validates, resolves]
  | createFile path size => simp only [Operation.map, perform, createFile, resolves]
  | deleteFile path => simp only [Operation.map, perform, deleteFile, resolves]
  | createDirectory path => simp only [Operation.map, perform, createDirectory, resolves]
  | deleteDirectory path => simp only [Operation.map, perform, deleteDirectory, deletes]
  | deleteDirectoryRecursively path =>
      simp only [Operation.map, perform, deleteDirectoryRecursively, deletes]
  | openDirectory path => simp only [Operation.map, perform, openDirectory, resolves]
  | rename source target => simp only [Operation.map, perform, rename, same]

end Mount

theorem Archive.perform_map {change : GuestPath → GuestPath}
    (same : ∀ path, (change path).segments? = path.segments?) (archive : Archive) (host : Host)
    (operation : Mount.Operation) :
    archive.perform host (operation.map change) = archive.perform host operation := by
  cases archive with
  | mounted mount => rw [perform_mounted, perform_mounted, Mount.perform_map same]
  | image romFs => cases operation <;> rfl

namespace GuestPath

/-- No zero would end the path before its end. -/
def Unterminated : GuestPath → Prop
  | char text => '\x00' ∉ text.toList
  | wide units => 0 ∉ units
  | invalid | empty | binary _ => True

inductive CharTail : Bytes → Prop
  | nothing : CharTail []
  | ended (garbage : Bytes) : CharTail (0 :: garbage)

inductive WideTail : Bytes → Prop
  | nothing : WideTail []
  | odd (byte : UInt8) : WideTail [byte]
  | ended (garbage : Bytes) : WideTail (0 :: 0 :: garbage)

theorem takeWhile_of_ended {Item : Type} [DecidableEq Item] {zero : Item} {items tail : List Item}
    (unterminated : zero ∉ items) (ended : tail.takeWhile (· ≠ zero) = []) :
    (items ++ tail).takeWhile (· ≠ zero) = items := by
  have kept (item : Item) (member : item ∈ items) : decide (item ≠ zero) = true :=
    decide_eq_true fun same => unterminated (same ▸ member)
  rw [List.takeWhile_append_of_pos kept, ended, List.append_nil]

theorem ofRaw_char {text : String} {tail : Bytes} (unterminated : '\x00' ∉ text.toList) (ends : CharTail tail) :
    ofRaw .char (Utf8.encode text ++ tail) = char text := by
  have ended : tail.takeWhile (· ≠ 0) = [] := by cases ends <;> rfl
  rw [ofRaw, Bytes.untilZero, takeWhile_of_ended (Utf8.zero_notMem_encode unterminated) ended,
    Utf8.decode_encode]

theorem ofRaw_wide {units : Utf16.Units} {tail : Bytes} (unterminated : 0 ∉ units) (ends : WideTail tail) :
    ofRaw .wide (Utf16.toBytes units ++ tail) = wide units := by
  have ended : (Utf16.ofBytes tail).takeWhile (· ≠ 0) = [] := by cases ends <;> rfl
  rw [ofRaw, Utf16.ofBytes_toBytes, takeWhile_of_ended unterminated ended]

theorem ofRaw_bytes {path : GuestPath} (unterminated : path.Unterminated) :
    ofRaw path.encoding path.bytes = path := by
  cases path with
  | char text =>
      have raw := ofRaw_char unterminated .nothing
      rwa [List.append_nil] at raw
  | wide units =>
      have raw := ofRaw_wide unterminated .nothing
      rwa [List.append_nil] at raw
  | invalid => rfl
  | empty => rfl
  | binary data => rfl

/-- Raw buffers give back the paths that they were made from, and a text without zeros is the same path in
either encoding, so that an operation may name it in the one or in the other. -/
theorem encodings_agree :
    (∀ path : GuestPath, path.Unterminated → ofRaw path.encoding path.bytes = path) ∧
      ∀ (text : String) (charTail wideTail : Bytes), '\x00' ∉ text.toList → CharTail charTail →
        WideTail wideTail → ∀ narrow broad : GuestPath,
          narrow = ofRaw .char (Utf8.encode text ++ charTail) →
          broad = ofRaw .wide (Utf16.toBytes (Utf16.encode text) ++ wideTail) →
          narrow.text = text ∧ broad.text = text ∧ narrow.isValid = broad.isValid ∧
            narrow.segments = broad.segments ∧
            ∀ (archive : Archive) (host : Host) (operation : Mount.Operation),
              archive.perform host (operation.map fun path => if path = narrow then broad else path) =
                archive.perform host operation := by
  refine ⟨fun path => ofRaw_bytes, fun text charTail wideTail unterminated charEnds wideEnds => ?_⟩
  rw [ofRaw_char unterminated charEnds, ofRaw_wide (Utf16.zero_notMem_encode unterminated) wideEnds]
  rintro narrow broad rfl rfl
  have same : (wide (Utf16.encode text)).segments? = (char text).segments? := by
    rw [segments?, segments?, Utf16.decode_encode]
  refine ⟨rfl, Utf16.decode_encode text, ?_, ?_, fun archive host operation => ?_⟩
  · rw [isValid, isValid, same]
  · rw [segments, segments, same]
  · refine Archive.perform_map (fun path => ?_) archive host operation
    split
    · rename_i named
      rw [named, same]
    · rfl

theorem encodings_agree_beyondSixteenBits :
    ofRaw .wide [0x2F, 0x00, 0x3D, 0xD8] = wide [0x2F, 0xD83D] ∧
      (ofRaw .char [0x2F, 0xF0, 0x9F, 0x98, 0x80, 0x00, 0x2A]).segments =
        (ofRaw .wide [0x2F, 0x00, 0x3D, 0xD8, 0x00, 0xDE, 0x78]).segments := by
  refine ⟨encodings_agree.1 (wide [0x2F, 0xD83D]) (by simp [Unterminated]), ?_⟩
  have agree := encodings_agree.2 (String.ofList ['/', Char.ofNat 0x1F600]) [0x00, 0x2A] [0x78] (by decide)
    (.ended _) (.odd _) _ _ rfl rfl
  exact agree.2.2.2.1

end GuestPath

end GuestStorage
