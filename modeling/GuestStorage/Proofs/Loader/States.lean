import GuestStorage.Proofs.Loader.Calls

namespace GuestStorage

theorem Headers.programId_of_unlock {keys : KeyProvider} {header : ContainerHeader} {data : Bytes}
    {extendedHeader : ExtendedHeader} {crypto : Option ContainerCrypto}
    (unlocked : unlock keys header data = .ok (extendedHeader, crypto)) :
    extendedHeader.programId = header.programId := by
  rw [unlock] at unlocked
  split at unlocked
  · cases unlocked
    assumption
  · split at unlocked
    · contradiction
    · dsimp only at unlocked
      split at unlocked
      · cases unlocked
        assumption
      · contradiction

theorem Headers.cause_of_locate {medium : Medium} {cause : LoaderError}
    (fails : locate medium = .error cause) : cause ≠ .notLoaded := by
  rw [locate] at fails
  split at fails
  · cases fails
    simp
  · split at fails
    · contradiction
    · split at fails <;> cases fails
      simp

theorem Headers.cause_of_unlock {keys : KeyProvider} {header : ContainerHeader} {data : Bytes}
    {cause : LoaderError} (fails : unlock keys header data = .error cause) : cause ≠ .notLoaded := by
  rw [unlock] at fails
  split at fails
  · contradiction
  · split at fails
    · rename_i underived
      cases fails
      simp only [Loader.cryptoOf, RegionCounters.derive] at underived
      split at underived
      · rename_i unknown
        cases underived
        split at unknown
        · contradiction
        · split at unknown <;> cases unknown
          simp
      · contradiction
    · dsimp only at fails
      split at fails <;> cases fails
      simp

theorem Headers.cause_of_read {keys : KeyProvider} {medium : Medium} {cause : LoaderError}
    (fails : read keys medium = .error cause) : cause ≠ .notLoaded := by
  rw [read] at fails
  split at fails
  · cases fails
    exact cause_of_locate ‹_›
  · split at fails
    · cases fails
      simp
    · split at fails
      · cases fails
        simp
      · split at fails
        · cases fails
          exact cause_of_unlock ‹_›
        · split at fails <;> cases fails
          simp

namespace Loader

inductive Request
  | call (call : Call)
  | kind
  deriving DecidableEq, Repr

inductive Reply
  | answer (answer : Answer)
  | kind (kind : ContainerKind)

def Reply.image? : Reply → Option ProgramImage
  | answer (.program (.ok image)) => some image
  | _ => none

def serve (loader : Loader) (medium : Medium) : Request → Loader × Reply
  | .call call => (loader.answer medium call).map id .answer
  | .kind => (loader, .kind medium.containerKind)

def run (loader : Loader) : List (Medium × Request) → Loader × List Reply
  | [] => (loader, [])
  | (medium, request) :: rest =>
    let (next, reply) := loader.serve medium request
    let (last, replies) := next.run rest
    (last, reply :: replies)

def Headed (loader : Loader) (medium : Medium) (headed : Loader) : Prop :=
  loader.headersLoaded = true ∧ headed = loader ∨
    loader.headersLoaded = false ∧
      ∃ headers, Headers.read loader.keys medium = .ok headers ∧ headed = loader.withHeaders headers

inductive Served (loader : Loader) (medium : Medium) : Loader → Option ProgramImage → Prop
  | still : Served loader medium loader none
  | unreadable {left : Loader} (unloaded : loader.headersLoaded = false) (state : left.state = .error) :
      Served loader medium left none
  | headed {next : Loader} (headed : loader.Headed medium next) : Served loader medium next none
  | loaded {next : Loader} (image : ProgramImage) (headed : loader.Headed medium next)
      (before : loader.state ≠ .loaded) : Served loader medium { next with state := .loaded } (some image)

variable {loader next : Loader} {medium : Medium} {image : Option ProgramImage}

theorem loadHeaders_cases (loader : Loader) (medium : Medium) :
    (∃ left cause, loader.headersLoaded = false ∧ Headers.read loader.keys medium = .error cause ∧
      left.state = .error ∧ loader.loadHeaders medium = (left, .error cause)) ∨
    ∃ next, loader.Headed medium next ∧ loader.loadHeaders medium = (next, .ok ()) := by
  cases ready : loader.headersLoaded with
  | true => exact .inr ⟨loader, .inl ⟨ready, rfl⟩, by rw [loadHeaders, if_pos ready]⟩
  | false =>
      have loads := loadHeaders_eq ready medium
      cases found : Headers.read loader.keys medium with
      | error cause =>
          rw [found] at loads
          obtain ⟨left, state, loads⟩ := loads
          exact .inl ⟨left, cause, rfl, rfl, state, loads⟩
      | ok headers =>
          rw [found] at loads
          exact .inr ⟨_, .inr ⟨ready, headers, found, rfl⟩, loads⟩

theorem loadHeaders_served (loader : Loader) (medium : Medium) :
    Served loader medium (loader.loadHeaders medium).1 none := by
  rcases loader.loadHeaders_cases medium with
    ⟨left, cause, unloaded, -, state, loads⟩ | ⟨next, headed, loads⟩
  · rw [loads]
    exact .unreadable unloaded state
  · rw [loads]
    exact .headed headed

theorem fst_afterHeaders {α : Type} (loader : Loader) (medium : Medium)
    (ask : Loader → Except LoaderError α) :
    (loader.afterHeaders medium ask).1 = (loader.loadHeaders medium).1 := by
  rw [afterHeaders]
  split <;> rename_i loads <;> rw [loads]

theorem load_served (loader : Loader) (medium : Medium) :
    Served loader medium (loader.load medium).1 (loader.load medium).2.toOption := by
  rw [load]
  split
  · exact .still
  · rename_i before
    rw [afterHeaders]
    rcases loader.loadHeaders_cases medium with
      ⟨left, cause, unloaded, -, state, loads⟩ | ⟨next, headed, loads⟩
    · rw [loads]
      exact .unreadable unloaded state
    · rw [loads]
      dsimp only
      cases next.programImage medium with
      | error cause => exact .headed headed
      | ok image => exact .loaded image headed before

theorem serve_served (loader : Loader) (medium : Medium) (request : Request) :
    Served loader medium (loader.serve medium request).1 (loader.serve medium request).2.image? := by
  cases request with
  | kind => exact .still
  | call call =>
      cases call with
      | headers => exact loader.loadHeaders_served medium
      | part name =>
          have served := loader.loadHeaders_served medium
          rwa [← fst_afterHeaders] at served
      | romFs =>
          have served := loader.loadHeaders_served medium
          rwa [← fst_afterHeaders] at served
      | program =>
          have served := loader.load_served medium
          simp only [serve, answer]
          cases loads : loader.load medium with
          | mk next result =>
              rw [loads] at served
              cases result with
              | error cause => exact served
              | ok image => exact served

structure Alike (left right : Loader) : Prop where
  path : left.path = right.path
  keys : left.keys = right.keys
  containerOffset : left.containerOffset = right.containerOffset
  exeFsOffset : left.exeFsOffset = right.exeFsOffset
  header : left.header = right.header
  extendedHeader : left.extendedHeader = right.extendedHeader
  sections : left.sections = right.sections
  crypto : left.crypto = right.crypto

structure Standing (loader : Loader) : Prop where
  magic : loader.header.magic = ContainerHeader.containerMagic
  base : loader.containerOffset = 0 ∨ loader.containerOffset = firstPartition
  exeFs : loader.exeFsOffset = loader.header.exeFs.offset.toNat * mediaUnit
  identified : ∃ extendedHeader, loader.extendedHeader = some extendedHeader ∧
    extendedHeader.programId = loader.header.programId

theorem standing_withHeaders {keys : KeyProvider} {headers : Headers}
    (found : Headers.read keys medium = .ok headers) : (loader.withHeaders headers).Standing := by
  obtain ⟨located, magic, ⟨data, -, unlocked⟩, -⟩ := Headers.read_eq_ok.mp found
  obtain ⟨contents, -, base⟩ := Headers.base_of_locate located
  exact ⟨magic, base, rfl, _, rfl, Headers.programId_of_unlock unlocked⟩

theorem Headed.eq_of_ready (headed : loader.Headed medium next) (ready : loader.headersLoaded = true) :
    next = loader := by
  rcases headed with ⟨-, rfl⟩ | ⟨unloaded, -⟩
  · rfl
  · rw [ready] at unloaded
    contradiction

theorem Headed.state (headed : loader.Headed medium next) (before : loader.state ≠ .loaded) :
    next.state = .headersLoaded := by
  rcases headed with ⟨ready, rfl⟩ | ⟨-, headers, -, rfl⟩
  · simpa [headersLoaded, before] using ready
  · rfl

theorem Headed.standing (headed : loader.Headed medium next)
    (standing : loader.headersLoaded = true → loader.Standing) : next.Standing := by
  rcases headed with ⟨ready, rfl⟩ | ⟨-, headers, found, rfl⟩
  · exact standing ready
  · exact standing_withHeaders found

theorem Served.standing (served : Served loader medium next image)
    (standing : loader.headersLoaded = true → loader.Standing) :
    next.headersLoaded = true → next.Standing := by
  cases served with
  | still => exact standing
  | unreadable unloaded state =>
      intro ready
      simp [headersLoaded, state] at ready
  | headed headed => exact fun _ => headed.standing standing
  | loaded image headed before =>
      obtain ⟨magic, base, exeFs, identified⟩ := headed.standing standing
      exact fun _ => ⟨magic, base, exeFs, identified⟩

theorem Served.of_ready (served : Served loader medium next image) (ready : loader.headersLoaded = true) :
    next = loader ∧ image = none ∨
      loader.state ≠ .loaded ∧ next = { loader with state := .loaded } := by
  cases served with
  | still => exact .inl ⟨rfl, rfl⟩
  | unreadable unloaded =>
      rw [ready] at unloaded
      contradiction
  | headed headed => exact .inl ⟨headed.eq_of_ready ready, rfl⟩
  | loaded image headed before =>
      rw [headed.eq_of_ready ready]
      exact .inr ⟨before, rfl⟩

theorem Served.frozen (served : Served loader medium next image) (ready : loader.headersLoaded = true) :
    ∃ state, (state = .headersLoaded ∨ state = .loaded) ∧ next = { loader with state } := by
  rcases served.of_ready ready with ⟨rfl, -⟩ | ⟨-, rfl⟩
  · exact ⟨next.state, by simpa [headersLoaded] using ready, rfl⟩
  · exact ⟨.loaded, .inr rfl, rfl⟩

theorem Served.eq_of_loaded (served : Served loader medium next image) (done : loader.state = .loaded) :
    next = loader ∧ image = none := by
  have ready : loader.headersLoaded = true := by simp [headersLoaded, done]
  rcases served.of_ready ready with same | ⟨before, -⟩
  · exact same
  · exact absurd done before

theorem Served.loaded_iff (served : Served loader medium next image) (before : loader.state ≠ .loaded) :
    next.state = .loaded ↔ image.isSome = true := by
  cases served with
  | still => simp [before]
  | unreadable unloaded state => simp [state]
  | headed headed => simp [headed.state before]
  | loaded image headed before => simp

theorem load_of_loaded (done : loader.state = .loaded) (medium : Medium) :
    loader.load medium = (loader, .error .alreadyLoaded) := by
  rw [load, if_pos done]

theorem state_of_load_error {cause : LoaderError} (before : loader.state ≠ .loaded)
    (fails : (loader.load medium).2 = .error cause) :
    (loader.load medium).1.state =
      match (loader.loadHeaders medium).2 with
      | .error _ => .error
      | .ok () => .headersLoaded := by
  rw [load, if_neg before, afterHeaders] at fails ⊢
  rcases loader.loadHeaders_cases medium with
    ⟨left, cause, -, -, state, loads⟩ | ⟨next, headed, loads⟩
  · rw [loads]
    exact state
  · rw [loads] at fails ⊢
    cases image : next.programImage medium with
    | error cause => simpa only [image] using headed.state before
    | ok image' => simp [image] at fails

theorem cause_of_sectionNamed {name : String} {cause : LoaderError}
    (fails : loader.sectionNamed medium name = .error cause) : cause ≠ .notLoaded := by
  rw [sectionNamed] at fails
  split at fails
  · cases fails
    simp
  · split at fails
    · rename_i stored
      cases fails
      simp only [storedSection] at stored
      split at stored
      · cases stored
        simp
      · split at stored <;> cases stored
        simp
    · rename_i data _
      split at fails
      · cases decompresses : Lzss.decompress data with
        | error fault =>
            rw [decompresses] at fails
            cases fails
            simp
        | ok code =>
            rw [decompresses] at fails
            cases fails
      · cases fails

theorem cause_of_programImage {cause : LoaderError} (standing : loader.Standing)
    (fails : loader.programImage medium = .error cause) : cause ≠ .notLoaded := by
  obtain ⟨extendedHeader, stands, -⟩ := standing.identified
  simp only [programImage, stands] at fails
  split at fails
  · cases fails
    exact cause_of_sectionNamed ‹_›
  · rename_i code _
    cases builds : ProgramImage.ofCode extendedHeader loader.programId code with
    | error fault =>
        rw [builds] at fails
        cases fails
        simp
    | ok image =>
        rw [builds] at fails
        cases fails

theorem load_ne_notLoaded (standing : loader.headersLoaded = true → loader.Standing) (medium : Medium) :
    (loader.load medium).2 ≠ .error .notLoaded := by
  by_cases done : loader.state = .loaded
  · rw [load_of_loaded done]
    simp
  · rw [load, if_neg done, afterHeaders]
    rcases loader.loadHeaders_cases medium with
      ⟨left, cause, -, unread, -, loads⟩ | ⟨next, headed, loads⟩
    · rw [loads]
      exact fun same => Headers.cause_of_read unread (Except.error.inj same)
    · rw [loads]
      cases image : next.programImage medium with
      | error cause =>
          simp only [image]
          exact fun same => cause_of_programImage (headed.standing standing) image (Except.error.inj same)
      | ok image' =>
          simp only [image]
          simp

section Alike

variable {left right : Loader}

theorem sectionNamed_of_alike (alike : Alike left right) (medium : Medium) (name : String) :
    left.sectionNamed medium name = right.sectionNamed medium name := by
  have slot : left.sectionSlot name = right.sectionSlot name := by
    simp only [sectionSlot, alike.crypto]
  have stored (entry : Section) :
      left.storedSection medium name entry = right.storedSection medium name entry := by
    simp only [storedSection, decryptExeFs, regionContext, slot, alike.containerOffset,
      alike.exeFsOffset, alike.crypto, alike.keys]
  have compressed : left.isCompressed = right.isCompressed := by
    simp only [isCompressed, alike.extendedHeader]
  simp only [sectionNamed, stored, compressed, alike.sections]

theorem romFsImage_of_alike (alike : Alike left right) (medium : Medium) :
    left.romFsImage medium = right.romFsImage medium := by
  simp only [romFsImage, romFsContext, regionContext, alike.header, alike.containerOffset, alike.path,
    alike.crypto, alike.keys]

end Alike

theorem run_standing (requests : List (Medium × Request))
    (standing : loader.headersLoaded = true → loader.Standing) :
    (loader.run requests).1.headersLoaded = true → (loader.run requests).1.Standing := by
  induction requests generalizing loader with
  | nil => exact standing
  | cons visit rest ih => exact ih ((loader.serve_served visit.1 visit.2).standing standing)

theorem run_frozen (requests : List (Medium × Request)) (ready : loader.headersLoaded = true) :
    ∃ state, (state = .headersLoaded ∨ state = .loaded) ∧
      (loader.run requests).1 = { loader with state } := by
  induction requests generalizing loader with
  | nil => exact ⟨loader.state, by simpa [headersLoaded] using ready, rfl⟩
  | cons visit rest ih =>
      obtain ⟨state, either, next⟩ := (loader.serve_served visit.1 visit.2).frozen ready
      have kept : (loader.serve visit.1 visit.2).1.headersLoaded = true := by
        rw [next]
        simpa [headersLoaded] using either
      obtain ⟨last, among, reached⟩ := ih kept
      exact ⟨last, among, by rw [run, reached, next]⟩

theorem run_of_loaded (requests : List (Medium × Request)) (done : loader.state = .loaded) :
    (loader.run requests).1 = loader ∧ (loader.run requests).2.filterMap Reply.image? = [] := by
  induction requests with
  | nil => exact ⟨rfl, rfl⟩
  | cons visit rest ih =>
      obtain ⟨same, nothing⟩ := (loader.serve_served visit.1 visit.2).eq_of_loaded done
      rw [run]
      simp only [same, List.filterMap_cons, nothing]
      exact ih

theorem run_images (requests : List (Medium × Request)) (before : loader.state ≠ .loaded) :
    ((loader.run requests).2.filterMap Reply.image?).length =
      if (loader.run requests).1.state = .loaded then 1 else 0 := by
  induction requests generalizing loader with
  | nil => simp [run, before]
  | cons visit rest ih =>
      have handed := (loader.serve_served visit.1 visit.2).loaded_iff before
      rw [run]
      simp only [List.filterMap_cons]
      -- The first request that loads decides: what comes before hands out nothing, nor does what follows.
      by_cases done : (loader.serve visit.1 visit.2).1.state = .loaded
      · obtain ⟨image, given⟩ := Option.isSome_iff_exists.mp (handed.mp done)
        obtain ⟨same, nothing⟩ := run_of_loaded rest done
        simp only [given, nothing, same, done, if_true, List.length_singleton]
      · have nothing : (loader.serve visit.1 visit.2).2.image? = none :=
          Option.not_isSome_iff_eq_none.mp fun given => done (handed.mpr given)
        simp only [nothing]
        exact ih done

/-- What holds of a loader that a run has brought about, and of the replies in that run. With its headers
loaded only the state changes, and what is asked of it depends on these headers and the file alone. It hands
out one program at most, has done so when it is loaded, and then hands out none. -/
structure Lawful (loader : Loader) (replies : List Reply) : Prop where
  frozen : loader.headersLoaded = true → ∀ later, ∃ state,
    (state = .headersLoaded ∨ state = .loaded) ∧ (loader.run later).1 = { loader with state }
  standing : loader.headersLoaded = true → loader.Standing
  found : ∀ medium, (loader.load medium).2 ≠ .error .notLoaded
  once : (replies.filterMap Reply.image?).length = if loader.state = .loaded then 1 else 0
  closed : loader.state = .loaded → ∀ later medium,
    (loader.run later).1.load medium = ((loader.run later).1, .error .alreadyLoaded)
  failing : loader.state ≠ .loaded → ∀ medium cause, (loader.load medium).2 = .error cause →
    (loader.load medium).1.state =
      match (loader.loadHeaders medium).2 with
      | .error _ => .error
      | .ok () => .headersLoaded
  determined : loader.headersLoaded = true → ∀ other : Loader, other.headersLoaded = true →
    Alike loader other → ∀ medium,
      (∀ name, loader.loadSection medium name = (loader, (other.loadSection medium name).2)) ∧
        loader.readRomFs medium = (loader, (other.readRomFs medium).2)

theorem run_lawful (file : OpenFile) (path : HostPath) (keys : KeyProvider)
    (requests : List (Medium × Request)) :
    Lawful ((ofFile file path keys).run requests).1 ((ofFile file path keys).run requests).2 where
  frozen ready later := run_frozen later ready
  standing := run_standing requests nofun
  found := load_ne_notLoaded (run_standing requests nofun)
  once := run_images requests nofun
  closed done later medium := by
    rw [(run_of_loaded later done).1]
    exact load_of_loaded done medium
  failing before _ _ := state_of_load_error before
  determined ready other readyToo alike medium := by
    simp only [loadSection, readRomFs, afterHeaders_of_loaded ready, afterHeaders_of_loaded readyToo,
      sectionNamed_of_alike alike, romFsImage_of_alike alike]
    exact ⟨fun _ => trivial, trivial⟩

def codeTitle : Contents :=
  ((((Contents.empty.resize 0xC10).write 0x100 ContainerHeader.containerMagic).write 0x1A0
    [5, 0, 0, 0]).write 0xA00 (Utf8.encode ".code" ++ [0, 0, 0, 0, 0, 0, 0, 16, 0, 0, 0])).write
    0xC00 (List.replicate 16 7)

def codeVisits : List (Medium × Request) :=
  [(.regular .empty, .call .headers), (.regular codeTitle, .call .program),
    (.regular .empty, .call .program)]

theorem run_lawful_codeTitle :
    ((ofFile ⟨.file 0, false⟩ ⟨["title"]⟩ .zero).run codeVisits).1.state = .loaded ∧
      (((ofFile ⟨.file 0, false⟩ ⟨["title"]⟩ .zero).run codeVisits).2.filterMap
        Reply.image?).length = 1 := by
  have state : ((ofFile ⟨.file 0, false⟩ ⟨["title"]⟩ .zero).run codeVisits).1.state = .loaded := by
    decide +kernel
  refine ⟨state, ?_⟩
  rw [(run_lawful _ _ _ codeVisits).once, if_pos state]

end Loader

end GuestStorage
