import GuestStorage.Proofs.Loader.States

namespace GuestStorage.Loader

def Touched (loader left : Loader) : Prop :=
  ∃ header containerOffset exeFsOffset crypto,
    left = { loader with header, containerOffset, exeFsOffset, crypto }

theorem Touched.refl (loader : Loader) : Touched loader loader := ⟨_, _, _, _, rfl⟩

theorem Touched.trans {loader between left : Loader} (first : Touched loader between)
    (second : Touched between left) : Touched loader left := by
  obtain ⟨_, _, _, _, rfl⟩ := first
  obtain ⟨header, containerOffset, exeFsOffset, crypto, rfl⟩ := second
  exact ⟨header, containerOffset, exeFsOffset, crypto, rfl⟩

variable {loader left right : Loader} {medium : Medium} {cause : LoaderError}

theorem readHeader_touched (loader : Loader) (medium : Medium) :
    Touched loader (loader.readHeader medium).1 := by
  rw [readHeader]
  split
  · exact .refl loader
  · dsimp only
    split
    · exact ⟨_, _, _, _, rfl⟩
    · split
      · exact ⟨_, _, _, _, rfl⟩
      · exact ⟨_, _, _, _, rfl⟩

theorem readExtendedHeader_touched (loader : Loader) (medium : Medium) :
    Touched loader (loader.readExtendedHeader medium).1 := by
  rw [readExtendedHeader]
  split
  · exact .refl loader
  · split
    · exact .refl loader
    · dsimp only
      split
      · exact .refl loader
      · split
        · exact .refl loader
        · split
          · exact ⟨_, _, _, _, rfl⟩
          · exact .refl loader

theorem touched_of_readSections (fails : loader.readSections medium = (left, .error cause)) :
    Touched loader left := by
  rw [readSections] at fails
  dsimp only at fails
  split at fails
  · cases fails
    exact ⟨_, _, _, _, rfl⟩
  · cases fails

theorem touched_of_readHeaders (fails : loader.readHeaders medium = (left, .error cause)) :
    Touched loader left := by
  have first := readHeader_touched loader medium
  rw [readHeaders] at fails
  split at fails
  · rename_i reads
    rw [reads] at first
    cases fails
    exact first
  · rename_i between reads
    rw [reads] at first
    have second := readExtendedHeader_touched between medium
    split at fails
    · rename_i reads
      rw [reads] at second
      cases fails
      exact first.trans second
    · rename_i next extendedHeader reads
      rw [reads] at second
      split at fails
      · rename_i lists
        cases fails
        exact (first.trans second).trans (touched_of_readSections lists)
      · cases fails

theorem touched_of_loadHeaders (fails : loader.loadHeaders medium = (left, .error cause)) :
    Touched { loader with state := .error, extendedHeader := none } left := by
  rw [loadHeaders] at fails
  split at fails
  · cases fails
  · split at fails
    · rename_i reads
      obtain ⟨header, containerOffset, exeFsOffset, crypto, rfl⟩ := touched_of_readHeaders reads
      cases fails
      exact ⟨header, containerOffset, exeFsOffset, crypto, rfl⟩
    · cases fails

/-- Two loaders on one file that have not found its headers, whatever else stands in them. -/
structure Unread (left right : Loader) : Prop where
  file : left.file = right.file
  path : left.path = right.path
  keys : left.keys = right.keys
  unloadedLeft : left.headersLoaded = false
  unloadedRight : right.headersLoaded = false

theorem Unread.withHeaders_eq (unread : Unread left right) (headers : Headers) :
    left.withHeaders headers = right.withHeaders headers := by
  simp only [withHeaders, unread.file, unread.path, unread.keys]

theorem unread_of_loadHeaders {leftover other : Loader} (unread : Unread left right)
    (failsLeft : left.loadHeaders medium = (leftover, .error cause))
    (failsRight : right.loadHeaders medium = (other, .error cause)) : Unread leftover other := by
  obtain ⟨_, _, _, _, rfl⟩ := touched_of_loadHeaders failsLeft
  obtain ⟨_, _, _, _, rfl⟩ := touched_of_loadHeaders failsRight
  exact ⟨unread.file, unread.path, unread.keys, rfl, rfl⟩

theorem loadHeaders_unread (unread : Unread left right) (medium : Medium) :
    (∃ next, left.loadHeaders medium = (next, .ok ()) ∧ right.loadHeaders medium = (next, .ok ())) ∨
    ∃ leftover other cause, left.loadHeaders medium = (leftover, .error cause) ∧
      right.loadHeaders medium = (other, .error cause) ∧ Unread leftover other := by
  have first := loadHeaders_eq unread.unloadedLeft medium
  have second := loadHeaders_eq unread.unloadedRight medium
  rw [unread.keys] at first
  cases found : Headers.read right.keys medium with
  | ok headers =>
      rw [found] at first second
      exact .inl ⟨_, first, by rw [second, unread.withHeaders_eq]⟩
  | error cause =>
      rw [found] at first second
      obtain ⟨leftover, -, failsLeft⟩ := first
      obtain ⟨other, -, failsRight⟩ := second
      exact .inr ⟨_, _, cause, failsLeft, failsRight,
        unread_of_loadHeaders unread failsLeft failsRight⟩

def Call.refusal (cause : LoaderError) : Call → Answer
  | .headers => .headers (.error cause)
  | .part _ => .part (.error cause)
  | .romFs => .romFs (.error cause)
  | .program => .program (.error cause)

theorem unloaded_of_failure (fails : loader.loadHeaders medium = (left, .error cause)) :
    loader.headersLoaded = false := by
  rw [loadHeaders] at fails
  split at fails
  · cases fails
  · exact Bool.eq_false_iff.mpr ‹_›

theorem answer_of_failure (fails : loader.loadHeaders medium = (left, .error cause)) (call : Call) :
    loader.answer medium call = (left, call.refusal cause) := by
  have unloaded := unloaded_of_failure fails
  cases call with
  | headers => simp only [answer, fails, Call.refusal, Prod.map_apply, id]
  | part name =>
      simp only [answer, loadSection, afterHeaders, fails, Call.refusal, Prod.map_apply, id]
  | romFs => simp only [answer, readRomFs, afterHeaders, fails, Call.refusal, Prod.map_apply, id]
  | program =>
      have before : loader.state ≠ .loaded := by
        intro done
        simp [headersLoaded, done] at unloaded
      simp only [answer, load, if_neg before, afterHeaders, fails, Call.refusal, Prod.map_apply, id]

theorem serve_unread (unread : Unread left right) (medium : Medium) (request : Request) :
    (left.serve medium request).2 = (right.serve medium request).2 ∧
      ((left.serve medium request).1 = (right.serve medium request).1 ∨
        Unread (left.serve medium request).1 (right.serve medium request).1) := by
  cases request with
  | kind => exact ⟨rfl, .inr unread⟩
  | call call =>
      rcases loadHeaders_unread unread medium with
        ⟨next, loadsLeft, loadsRight⟩ | ⟨leftover, other, cause, failsLeft, failsRight, still⟩
      · have same : left.answer medium call = right.answer medium call :=
          (answer_of_loadHeaders unread.unloadedLeft loadsLeft call).trans
            (answer_of_loadHeaders unread.unloadedRight loadsRight call).symm
        simp only [serve, same]
        exact ⟨trivial, .inl trivial⟩
      · simp only [serve, answer_of_failure failsLeft, answer_of_failure failsRight]
        exact ⟨rfl, .inr still⟩

theorem run_unread (unread : Unread left right) (requests : List (Medium × Request)) :
    (left.run requests).2 = (right.run requests).2 := by
  induction requests generalizing left right with
  | nil => rfl
  | cons visit rest ih =>
      obtain ⟨medium, request⟩ := visit
      obtain ⟨reply, next⟩ := serve_unread unread medium request
      have later : ((left.serve medium request).1.run rest).2 =
          ((right.serve medium request).1.run rest).2 := by
        rcases next with same | still
        · rw [same]
        · exact ih still
      simp only [run, reply, later]

def Failing (loader : Loader) : List (Medium × Request) → Prop
  | [] => True
  | (medium, request) :: rest =>
    (request ≠ .kind → ∃ cause, (loader.loadHeaders medium).2 = .error cause) ∧
      (loader.serve medium request).1.Failing rest

theorem unread_of_failing {requests : List (Medium × Request)} (failing : left.Failing requests)
    (unread : Unread left right) : Unread (left.run requests).1 right := by
  induction requests generalizing left with
  | nil => exact unread
  | cons visit rest ih =>
      obtain ⟨medium, request⟩ := visit
      obtain ⟨fails, later⟩ := failing
      refine ih later ?_
      cases request with
      | kind => exact unread
      | call call =>
          obtain ⟨cause, fails⟩ := fails nofun
          cases loads : left.loadHeaders medium with
          | mk leftover result =>
              rw [loads] at fails
              obtain rfl : result = .error cause := fails
              obtain ⟨_, _, _, _, rfl⟩ := touched_of_loadHeaders loads
              simp only [answer_of_failure loads]
              exact ⟨unread.file, unread.path, unread.keys, rfl, unread.unloadedRight⟩

/-- However far earlier attempts got, and whatever the file held then, a loader that has not found its
headers answers like one that was just opened; once it finds them it is that loader in every field. -/
theorem retry_eq_fresh {file : OpenFile} {path : HostPath} {keys : KeyProvider}
    {earlier : List (Medium × Request)} (failing : (ofFile file path keys).Failing earlier)
    (medium : Medium) :
    ((((ofFile file path keys).run earlier).1.loadHeaders medium).2 =
        ((ofFile file path keys).loadHeaders medium).2) ∧
      ((((ofFile file path keys).run earlier).1.loadHeaders medium).2 = .ok () →
        (((ofFile file path keys).run earlier).1.loadHeaders medium).1 =
          ((ofFile file path keys).loadHeaders medium).1) ∧
      ∀ later, (((ofFile file path keys).run earlier).1.run later).2 =
        ((ofFile file path keys).run later).2 := by
  have unread : Unread ((ofFile file path keys).run earlier).1 (ofFile file path keys) :=
    unread_of_failing failing ⟨rfl, rfl, rfl, rfl, rfl⟩
  rcases loadHeaders_unread unread medium with
    ⟨next, loads, fresh⟩ | ⟨leftover, other, cause, fails, alike, -⟩
  · rw [loads, fresh]
    exact ⟨rfl, fun _ => rfl, run_unread unread⟩
  · rw [fails, alike]
    exact ⟨rfl, nofun, run_unread unread⟩

def cutCard : Contents := (Contents.empty.resize 0x4000).write 0x100 ContainerHeader.cardMagic

theorem retry_after_cutCard :
    ((ofFile ⟨.file 0, false⟩ ⟨["title"]⟩ .zero).run
        [(.regular cutCard, .call (.part "icon")), (.directory, .kind)]).1.containerOffset =
      firstPartition ∧
    ((((ofFile ⟨.file 0, false⟩ ⟨["title"]⟩ .zero).run
        [(.regular cutCard, .call (.part "icon")), (.directory, .kind)]).1.loadHeaders
          (.regular codeTitle)).1.containerOffset = 0) := by
  have failing : (ofFile ⟨.file 0, false⟩ ⟨["title"]⟩ .zero).Failing
      [(.regular cutCard, .call (.part "icon")), (.directory, .kind)] :=
    ⟨fun _ => ⟨.io .endOfFile, by decide +kernel⟩, fun asked => absurd rfl asked, trivial⟩
  have fresh : ((ofFile ⟨.file 0, false⟩ ⟨["title"]⟩ .zero).loadHeaders (.regular codeTitle)).2 =
      .ok () := by decide +kernel
  obtain ⟨result, loader, -⟩ := retry_eq_fresh failing (.regular codeTitle)
  refine ⟨by decide +kernel, ?_⟩
  rw [loader (result.trans fresh)]
  decide +kernel

end GuestStorage.Loader
