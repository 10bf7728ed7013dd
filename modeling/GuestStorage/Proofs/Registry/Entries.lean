import GuestStorage.Archive.Registry

namespace GuestStorage

namespace Registry

def adding (registry : Registry) (entries : List (ArchiveId × Factory)) : Registry :=
  { registry with factories := registry.factories ++ entries }

def Free (registry : Registry) (entries : List (ArchiveId × Factory)) : Prop :=
  ∀ entry ∈ entries, registry.isRegistered entry.1 = false

variable {registry : Registry} {entries : List (ArchiveId × Factory)} {id : ArchiveId} {factory : Factory}

@[simp] theorem adding_nil (registry : Registry) : registry.adding [] = registry := by
  rw [adding, List.append_nil]

@[simp] theorem adding_adding (registry : Registry) (first second : List (ArchiveId × Factory)) :
    (registry.adding first).adding second = registry.adding (first ++ second) := by
  rw [adding, adding, adding, List.append_assoc]

theorem register_of_free (free : registry.isRegistered id = false) (factory : Factory) :
    registry.register id factory = .ok (registry.adding [(id, factory)]) := by
  rw [register, free, if_neg Bool.false_ne_true, adding]

theorem isRegistered_iff : registry.isRegistered id = true ↔ id ∈ registry.factories.map (·.1) := by
  rw [isRegistered, List.lookup_isSome_iff, List.mem_map]
  simp only [beq_iff_eq, @eq_comm _ id]

@[simp] theorem isRegistered_adding_iff :
    (registry.adding entries).isRegistered id = true ↔
      registry.isRegistered id = true ∨ id ∈ entries.map (·.1) := by
  rw [isRegistered_iff, isRegistered_iff, adding, List.map_append, List.mem_append]

inductive Registered (registry : Registry) (entries : List (ArchiveId × Factory)) :
    Registry × Except ResultCode Unit → Prop
  | all (free : registry.Free entries) : Registered registry entries (registry.adding entries, .ok ())
  | upTo {front rest : List (ArchiveId × Factory)} {taken : ArchiveId × Factory}
      (stops : entries = front ++ taken :: rest) (free : registry.Free front)
      (refuses : (registry.adding front).isRegistered taken.1 = true) :
      Registered registry entries (registry.adding front, .error .alreadyExists)

theorem Free.cons (free : registry.isRegistered id = false)
    (later : (registry.adding [(id, factory)]).Free entries) : registry.Free ((id, factory) :: entries) := by
  intro entry member
  rcases List.mem_cons.mp member with rfl | member
  · exact free
  · rw [← Bool.not_eq_true]
    exact fun taken => Bool.eq_false_iff.mp (later entry member) (isRegistered_adding_iff.mpr (.inl taken))

theorem registerEach_registered (registry : Registry) (entries : List (ArchiveId × Factory)) :
    Registered registry entries (Console.registerEach registry entries) := by
  induction entries generalizing registry with
  | nil =>
      have nothing : Registered registry [] (registry.adding [], .ok ()) := .all nofun
      simpa [Console.registerEach] using nothing
  | cons entry rest ih =>
      obtain ⟨id, factory⟩ := entry
      rw [Console.registerEach]
      cases taken : registry.isRegistered id with
      | true =>
          have cut : Registered registry ((id, factory) :: rest) (registry.adding [], .error .alreadyExists) :=
            .upTo rfl nofun (by simpa)
          simpa [register, taken] using cut
      | false =>
          rw [register_of_free taken]
          have later := ih (registry.adding [(id, factory)])
          dsimp only
          generalize Console.registerEach (registry.adding [(id, factory)]) rest = outcome at later ⊢
          cases later with
          | all free =>
              rw [adding_adding]
              exact .all (free.cons taken)
          | upTo stops free refuses =>
              rw [adding_adding] at refuses ⊢
              exact .upTo (by rw [stops]; rfl) (free.cons taken) refuses

end Registry

namespace Console

/-- What the stages have to register. Each is prepared on the host that the one before leaves, and is left out if
it cannot be. -/
def offered (host : Host) : List Stage → List (ArchiveId × Factory)
  | [] => []
  | stage :: rest =>
    let (after, ready) := stage.prepare.initialise host
    if ready then stage.entries ++ offered after rest else offered after rest

def offers (console : Console) (config : Config) : List (ArchiveId × Factory) :=
  offered console.host (defaultStages config console.titles.length)

theorem offered_sublist (host : Host) (stages : List Stage) :
    (offered host stages).Sublist (stages.flatMap (·.entries)) := by
  induction stages generalizing host with
  | nil => exact List.Sublist.slnil
  | cons stage rest ih =>
      rw [offered, List.flatMap_cons]
      cases stage.prepare.initialise host with
      | mk after ready =>
          cases ready with
          | true => exact (List.Sublist.refl _).append (ih after)
          | false => exact (ih after).trans (List.sublist_append_right ..)

theorem offers_inOrder (console : Console) (config : Config) :
    ((console.offers config).map (·.1)).Sublist
      [.sdCard, .sdCardWriteOnly, .extSaveData, .sharedExtSaveData, .systemSaveData, .saveData] :=
  (offered_sublist ..).map _

theorem offers_distinct (console : Console) (config : Config) : ((console.offers config).map (·.1)).Nodup :=
  (offers_inOrder console config).nodup (by decide)

theorem registerEach_append (registry : Registry) (first second : List (ArchiveId × Factory)) :
    registerEach registry (first ++ second) =
      match registerEach registry first with
      | (registry, .error code) => (registry, .error code)
      | (registry, .ok ()) => registerEach registry second := by
  induction first generalizing registry with
  | nil => rfl
  | cons entry rest ih =>
      rw [List.cons_append, registerEach, registerEach]
      cases registry.register entry.1 entry.2 with
      | error code => rfl
      | ok registry => exact ih registry

theorem runStages_eq (console : Console) (stages : List Stage) :
    ∃ host, runStages console stages =
      (⟨host, (registerEach console.registry (offered console.host stages)).1, console.titles⟩,
        (registerEach console.registry (offered console.host stages)).2) := by
  induction stages generalizing console with
  | nil => exact ⟨console.host, rfl⟩
  | cons stage rest ih =>
      rw [runStages, offered]
      cases stage.prepare.initialise console.host with
      | mk after ready =>
          cases ready with
          | false => exact ih { console with host := after }
          | true =>
              dsimp only
              rw [if_pos rfl, if_pos rfl, registerEach_append]
              cases registerEach console.registry stage.entries with
              | mk registry result =>
                  cases result with
                  | error code => exact ⟨after, rfl⟩
                  | ok => exact ih { console with host := after, registry }

/-- Every call takes a slot for a title, but only one that succeeds makes it that of the title that runs. -/
theorem registerDefaults_eq (console : Console) (config : Config) :
    ∃ host, console.registerDefaults config =
      match registerEach console.registry (console.offers config) with
      | (registry, .error code) => (⟨host, registry, console.titles ++ [0]⟩, .error code)
      | (registry, .ok ()) =>
        (⟨host, { registry with runningTitle := some console.titles.length }, console.titles ++ [0]⟩, .ok ()) := by
  obtain ⟨host, runs⟩ := runStages_eq { console with titles := console.titles ++ [0] }
    (defaultStages config console.titles.length)
  refine ⟨host, ?_⟩
  rw [registerDefaults]
  dsimp only at runs ⊢
  rw [runs, offers]
  cases registerEach console.registry (offered console.host (defaultStages config console.titles.length)) with
  | mk registry result => cases result <;> rfl

end Console

end GuestStorage
