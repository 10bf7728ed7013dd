import GuestStorage.Proofs.Registry.Handles

namespace GuestStorage

@[simp] theorem Titles.get_append_unset (titles : Titles) (slot : Nat) :
    Titles.get (titles ++ [0]) slot = titles.get slot := by
  rw [get, get, List.getD_eq_getElem?_getD, List.getD_eq_getElem?_getD]
  by_cases inside : slot < titles.length
  · rw [List.getElem?_append_left inside]
  · have outside := Nat.le_of_not_lt inside
    rw [List.getElem?_append_right outside, List.getElem?_eq_none outside]
    cases slot - titles.length <;> rfl

namespace Registry

variable {registry : Registry} {entries : List (ArchiveId × Factory)} {id : ArchiveId} {factory : Factory}

theorem Free.not_mem (free : registry.Free entries) (stands : registry.factory id = .ok factory) :
    id ∉ entries.map (·.1) := by
  intro member
  obtain ⟨entry, among, rfl⟩ := List.mem_map.mp member
  have untaken := free entry among
  rw [isRegistered, factory_eq_ok_iff.mp stands] at untaken
  cases untaken

theorem factory_adding_of_not_mem (other : id ∉ entries.map (·.1)) :
    (registry.adding entries).factory id = registry.factory id := by
  have absent : entries.lookup id = none := List.lookup_eq_none_iff.mpr fun entry member =>
    bne_iff_ne.mpr fun same => other (same ▸ List.mem_map_of_mem member)
  rw [Registry.factory, Registry.factory, adding, List.lookup_append, absent, Option.or_none]

theorem factory_adding_of_mem (free : registry.Free entries) (distinct : (entries.map (·.1)).Nodup)
    (member : (id, factory) ∈ entries) : (registry.adding entries).factory id = .ok factory := by
  have absent : registry.factories.lookup id = none :=
    Option.isNone_iff_eq_none.mp (Option.isSome_eq_false_iff.mp (free _ member))
  obtain ⟨before, after, rfl⟩ := List.append_of_mem member
  have first : ∀ entry ∈ before, (id != entry.1) = true := by
    intro entry earlier
    rw [List.map_append, List.map_cons, List.nodup_append] at distinct
    exact bne_iff_ne.mpr (distinct.2.2 _ (List.mem_map_of_mem earlier) _ List.mem_cons_self).symm
  rw [factory_eq_ok_iff, adding, List.lookup_append, absent, Option.none_or]
  exact List.lookup_eq_some_iff.mpr ⟨before, after, rfl, first⟩

end Registry

namespace Console

variable {console next : Console} {config : Config} {front : List (ArchiveId × Factory)}

def Seated (console : Console) : Prop :=
  ∀ slot, console.registry.runningTitle = some slot → slot < console.titles.length

theorem seated_empty (host : Host) (titles : Titles) : Seated ⟨host, .empty, titles⟩ := by
  rintro slot ⟨⟩

theorem call_seated (seated : console.Seated) (call : Call) : (console.call call).1.Seated := by
  cases call with
  | register id factory =>
      rw [Console.call, Registry.register]
      cases console.registry.isRegistered id <;> exact seated
  | registerDefaults config =>
      obtain ⟨host, registers⟩ := console.registerDefaults_eq config
      have outcome := Registry.registerEach_registered console.registry (console.offers config)
      rw [Console.call, answered, registers]
      generalize registerEach console.registry (console.offers config) = result at outcome ⊢
      cases outcome with
      | all =>
          rintro slot ⟨⟩
          rw [List.length_append]
          exact Nat.lt_succ_self _
      | upTo =>
          intro slot running
          rw [List.length_append]
          exact Nat.lt_succ_of_lt (seated slot running)
  | openArchive id path =>
      rw [call_openArchive]
      cases console.backend id path <;> exact seated
  | closeArchive handle =>
      rw [Console.call, Registry.close]
      cases console.registry.archive handle <;> exact seated
  | format id path info =>
      rw [Console.call, answered, format]
      split <;> exact seated
  | setProgramId programId =>
      rw [Console.call, setProgramId]
      split
      · exact seated
      · intro slot running
        dsimp only
        rw [List.length_set]
        exact seated slot running
  | perform | freeBytes =>
      rw [Console.call, answered, through]
      split <;> exact seated
  | rename source sourcePath target targetPath =>
      rw [Console.call, answered, rename]
      split <;> exact seated
  | formatInfo | elsewhere => exact seated

theorem run_seated (seated : console.Seated) (calls : List Call) : (console.run calls).Seated := by
  induction calls generalizing console with
  | nil => exact seated
  | cons call rest ih => exact ih (call_seated seated call)

theorem get_setProgramId (seated : console.Seated)
    (running : next.registry.runningTitle = console.registry.runningTitle)
    (titles : next.titles = console.titles ++ [0]) (programId : UInt64) (slot : Nat) :
    (next.setProgramId programId).titles.get slot = (console.setProgramId programId).titles.get slot := by
  rw [setProgramId, setProgramId, running]
  cases taken : console.registry.runningTitle with
  | none =>
      rw [titles]
      exact Titles.get_append_unset console.titles slot
  | some seat =>
      dsimp only
      rw [titles, List.set_append_left _ _ (seated seat taken)]
      exact Titles.get_append_unset (console.titles.set seat programId) slot

structure AllRegistered (console : Console) (config : Config) (next : Console) : Prop where
  free : console.registry.Free (console.offers config)
  added : ∀ id factory, (id, factory) ∈ console.offers config → next.registry.factory id = .ok factory

/-- What a refused registration leaves: the archives that are offered before the first one whose identifier is
taken are registered. No identifier loses or changes its factory, and the running title is told to whom it was. -/
structure CutShort (console : Console) (config : Config) (next : Console)
    (front : List (ArchiveId × Factory)) : Prop where
  inOrder : ((console.offers config).map (·.1)).Sublist
    [.sdCard, .sdCardWriteOnly, .extSaveData, .sharedExtSaveData, .systemSaveData, .saveData]
  stops : ∃ taken rest, console.offers config = front ++ taken :: rest ∧
    console.registry.isRegistered taken.1 = true
  added : ∀ id factory, (id, factory) ∈ front →
    console.registry.isRegistered id = false ∧ next.registry.factory id = .ok factory
  others : ∀ id, id ∉ front.map (·.1) → next.registry.factory id = console.registry.factory id
  kept : ∀ id factory, console.registry.factory id = .ok factory → next.registry.factory id = .ok factory
  unchanged_iff : (∀ id, next.registry.factory id = console.registry.factory id) ↔ front = []
  runningTitle : next.registry.runningTitle = console.registry.runningTitle
  titles : ∀ programId slot,
    (next.setProgramId programId).titles.get slot = (console.setProgramId programId).titles.get slot

theorem cutShort_of_adding (seated : console.Seated) {taken : ArchiveId × Factory}
    {rest : List (ArchiveId × Factory)} (stops : console.offers config = front ++ taken :: rest)
    (free : console.registry.Free front) (refuses : (console.registry.adding front).isRegistered taken.1 = true)
    (registry : next.registry = console.registry.adding front) (titles : next.titles = console.titles ++ [0]) :
    CutShort console config next front := by
  have distinct := offers_distinct console config
  rw [stops, List.map_append, List.map_cons, List.nodup_append] at distinct
  have running : next.registry.runningTitle = console.registry.runningTitle := by
    rw [registry, Registry.adding]
  have added (id : ArchiveId) (factory : Factory) (member : (id, factory) ∈ front) :
      console.registry.isRegistered id = false ∧ next.registry.factory id = .ok factory :=
    ⟨free _ member, registry ▸ Registry.factory_adding_of_mem free distinct.1 member⟩
  have others (id : ArchiveId) (other : id ∉ front.map (·.1)) :
      next.registry.factory id = console.registry.factory id := by
    rw [registry, Registry.factory_adding_of_not_mem other]
  refine {
    inOrder := offers_inOrder console config
    stops := ⟨taken, rest, stops, ?_⟩
    added := added
    others := others
    kept := fun id factory stands => (others id (free.not_mem stands)).trans stands
    unchanged_iff := ⟨fun unchanged => ?_, ?_⟩
    runningTitle := running
    titles := get_setProgramId seated running titles }
  · -- The identifier that stops the call is none of those that the call has added.
    refine (Registry.isRegistered_adding_iff.mp refuses).resolve_right fun again => ?_
    exact distinct.2.2 _ again _ List.mem_cons_self rfl
  · refine List.eq_nil_iff_forall_not_mem.mpr fun entry member => ?_
    have stands := (unchanged entry.1).symm.trans (added entry.1 entry.2 member).2
    exact free.not_mem stands (List.mem_map_of_mem member)
  · rintro rfl id
    exact others id List.not_mem_nil

theorem registerDefaults_all_or_cutShort (seated : console.Seated) (config : Config) :
    ((console.registerDefaults config).2 = .ok () ∧
        AllRegistered console config (console.registerDefaults config).1) ∨
      ((console.registerDefaults config).2 = .error .alreadyExists ∧
        ∃ front, CutShort console config (console.registerDefaults config).1 front) := by
  obtain ⟨host, registers⟩ := console.registerDefaults_eq config
  have outcome := Registry.registerEach_registered console.registry (console.offers config)
  rw [registers]
  generalize registerEach console.registry (console.offers config) = result at outcome ⊢
  cases outcome with
  | all free =>
      have distinct := offers_distinct console config
      exact .inl ⟨rfl, free, fun id factory => Registry.factory_adding_of_mem free distinct⟩
  | upTo stops free refuses => exact .inr ⟨rfl, _, cutShort_of_adding seated stops free refuses rfl rfl⟩

/-- The default archives are registered if no identifier of those that are offered is taken. Else they are refused,
and the ones offered before the first one that is taken stay registered, so that the registry is as before if and
only if there are none. -/
theorem run_registerDefaults_all_or_cutShort (host : Host) (titles : Titles) (calls : List Call)
    (config : Config) :
    let console := (Console.mk host .empty titles).run calls
    ((console.registerDefaults config).2 = .ok () ∧
        AllRegistered console config (console.registerDefaults config).1) ∨
      ((console.registerDefaults config).2 = .error .alreadyExists ∧
        ∃ front, CutShort console config (console.registerDefaults config).1 front) :=
  registerDefaults_all_or_cutShort (run_seated (seated_empty host titles) calls) config

def mediaWith (card : Bool) : Config := ⟨⟨"/sd", "/nand"⟩, ⟨card, "s", "c"⟩, .standard⟩

theorem refused_registration_adds_card :
    let console := (ofHost (.empty [])).run [.registerDefaults (mediaWith false)]
    (console.registerDefaults (mediaWith true)).2 = .error .alreadyExists ∧
      console.registry.isRegistered .sdCard = false ∧
      (console.registerDefaults (mediaWith true)).1.registry.isRegistered .sdCard = true := by
  decide +kernel

end Console

end GuestStorage
