namespace GuestStorage

variable {Handle Outcome : Type} {handles : List Handle} {number : Nat} {handle : Handle}

/-- Handles are numbered in the order in which they are handed out. -/
def throughHandle (handles : List Handle) (number : Nat) (unknown : Outcome) (act : Handle → Outcome) : Outcome :=
  match handles[number]? with
  | none => unknown
  | some handle => act handle

theorem throughHandle_cases {motive : Outcome → Prop} {unknown : Outcome} {act : Handle → Outcome}
    (refused : motive unknown) (acts : ∀ handle, handles[number]? = some handle → motive (act handle)) :
    motive (throughHandle handles number unknown act) := by
  rw [throughHandle]
  cases found : handles[number]? with
  | none => exact refused
  | some handle => exact acts handle found

theorem forall_mem_set {property : Handle → Prop} (others : ∀ other ∈ handles, property other)
    (holds : property handle) : ∀ other ∈ handles.set number handle, property other := by
  intro other member
  rcases List.mem_or_eq_of_mem_set member with old | rfl
  · exact others other old
  · exact holds

end GuestStorage
