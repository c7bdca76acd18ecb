import Mathlib.Data.List.Forall2

/-!
# Computations that can fail

When a computation succeeds, and with which result, is said here by the results of its parts: of a
sequence by one result between the two steps, and of a list by the results of the items.
-/

namespace ExecutorRegistration

theorem map_eq_ok_iff {α β ε : Type} (f : α → β) (result : Except ε α) (value : β) :
    result.map f = .ok value ↔ ∃ inner, result = .ok inner ∧ value = f inner := by
  cases result <;> simp [Except.map, eq_comm]

theorem map_eq_error_iff {α β ε : Type} (f : α → β) (result : Except ε α) (fault : ε) :
    result.map f = .error fault ↔ result = .error fault := by
  cases result <;> simp [Except.map]

theorem mapError_eq_ok_iff {ε δ α : Type} (f : ε → δ) (result : Except ε α) (value : α) :
    result.mapError f = .ok value ↔ result = .ok value := by
  cases result <;> simp [Except.mapError]

theorem bind_eq_ok_iff {α β ε : Type} (result : Except ε α) (f : α → Except ε β) (value : β) :
    result >>= f = .ok value ↔ ∃ inner, result = .ok inner ∧ f inner = .ok value := by
  cases result <;> simp [bind, Except.bind]

theorem toOption_eq_some_iff {α ε : Type} (result : Except ε α) (value : α) :
    result.toOption = some value ↔ result = .ok value := by
  cases result with
  | error fault => exact iff_of_false (Option.some_ne_none value).symm (by simp)
  | ok found =>
      exact ⟨fun same => congrArg Except.ok (Option.some.inj same),
        fun same => congrArg some (Except.ok.inj same)⟩

theorem toOption_eq_none_iff {α ε : Type} (result : Except ε α) :
    result.toOption = none ↔ ∃ fault, result = .error fault := by
  cases result with
  | error fault => exact ⟨fun _ => ⟨fault, rfl⟩, fun _ => rfl⟩
  | ok value => exact iff_of_false (Option.some_ne_none value) (by simp)

theorem isSome_toOption_iff {α ε : Type} (result : Except ε α) :
    result.toOption.isSome = true ↔ ∃ value, result = .ok value := by
  rw [Option.isSome_iff_exists]
  exact exists_congr fun value => toOption_eq_some_iff result value

/-! ## Lists -/

/-- A list is mapped without a fault if each of its items is. -/
theorem mapM_eq_ok_iff {α β ε : Type} (f : α → Except ε β) (items : List α) (results : List β) :
    items.mapM f = .ok results ↔
      List.Forall₂ (fun item result => f item = .ok result) items results := by
  induction items generalizing results with
  | nil =>
      rw [List.mapM_nil, List.forall₂_nil_left_iff]
      exact ⟨fun mapped => (Except.ok.inj mapped).symm, fun empty => empty ▸ rfl⟩
  | cons item items ih =>
      rw [List.mapM_cons, List.forall₂_cons_left_iff]
      cases first : f item with
      | error fault => simp [bind, Except.bind]
      | ok result =>
          simp only [bind, Except.bind, ← ih, Except.ok.injEq, exists_and_left, exists_eq_left']
          cases rest : items.mapM f with
          | error fault => simp
          | ok others => simp [pure, Except.pure, eq_comm]

/-- The results of a list are the same, or for both functions are the fault of the same item. -/
theorem mapM_eq_or {α β ε : Type} {left right : α → Except ε β} {leftFault rightFault : ε}
    {differs : α → Prop} (items : List α)
    (same : ∀ item ∈ items, left item = right item ∨
      differs item ∧ left item = .error leftFault ∧ right item = .error rightFault) :
    items.mapM left = items.mapM right ∨
      (∃ item ∈ items, differs item) ∧ items.mapM left = .error leftFault ∧
        items.mapM right = .error rightFault := by
  induction items with
  | nil => exact .inl rfl
  | cons item items ih =>
      obtain ⟨first, rest⟩ := List.forall_mem_cons.mp same
      rw [List.mapM_cons, List.mapM_cons]
      rcases first with first | ⟨differ, leftFirst, rightFirst⟩
      · rw [first]
        cases right item with
        | error fault => exact .inl rfl
        | ok result =>
            rcases ih rest with others | ⟨⟨other, member, differ⟩, leftRest, rightRest⟩
            · rw [others]
              exact .inl rfl
            · rw [leftRest, rightRest]
              exact .inr ⟨⟨other, List.mem_cons_of_mem item member, differ⟩, rfl, rfl⟩
      · rw [leftFirst, rightFirst]
        exact .inr ⟨⟨item, List.mem_cons_self, differ⟩, rfl, rfl⟩

/-- A list with an item that is refused has no result. -/
theorem mapM_ite_none {α β : Type} (accepted : α → Prop) [DecidablePred accepted]
    (f : α → Option β) (items : List α) :
    (items.mapM fun item => if accepted item then f item else none) =
      if ∀ item ∈ items, accepted item then items.mapM f else none := by
  induction items with
  | nil => rfl
  | cons item items ih =>
      rw [List.mapM_cons, List.mapM_cons, ih]
      by_cases first : accepted item
      · by_cases others : ∀ item ∈ items, accepted item
        · rw [if_pos first, if_pos others, if_pos (List.forall_mem_cons.mpr ⟨first, others⟩)]
        · rw [if_pos first, if_neg others,
            if_neg fun all => others (List.forall_mem_cons.mp all).2]
          cases f item <;> rfl
      · rw [if_neg first, if_neg fun all => first (List.forall_mem_cons.mp all).1]
        rfl

/-- All items are related to something if the list is related to a list item by item. -/
theorem exists_forall₂_iff {α β : Type} (related : α → β → Prop) (items : List α) :
    (∃ images, List.Forall₂ related items images) ↔
      ∀ item ∈ items, ∃ image, related item image := by
  induction items with
  | nil => simp
  | cons item items ih =>
      rw [List.forall_mem_cons, ← ih]
      simp only [List.forall₂_cons_left_iff]
      constructor
      · rintro ⟨_, image, images, first, rest, rfl⟩
        exact ⟨⟨image, first⟩, images, rest⟩
      · rintro ⟨⟨image, first⟩, images, rest⟩
        exact ⟨_, image, images, first, rest, rfl⟩

/-- Relations of lists item by item may be taken one after the other. -/
theorem forall₂_comp_iff {α β γ : Type} (first : α → β → Prop) (second : β → γ → Prop)
    (items : List α) (images : List γ) :
    (∃ middles, List.Forall₂ first items middles ∧ List.Forall₂ second middles images) ↔
      List.Forall₂ (fun item image => ∃ middle, first item middle ∧ second middle image)
        items images := by
  induction items generalizing images with
  | nil => simp
  | cons item items ih =>
      simp only [List.forall₂_cons_left_iff, ← ih]
      constructor
      · rintro ⟨_, ⟨middle, middles, isFirst, areFirst, rfl⟩, allSecond⟩
        obtain ⟨image, images, isSecond, areSecond, rfl⟩ :=
          List.forall₂_cons_left_iff.mp allSecond
        exact ⟨image, images, ⟨middle, isFirst, isSecond⟩, ⟨middles, areFirst, areSecond⟩, rfl⟩
      · rintro ⟨image, images, ⟨middle, isFirst, isSecond⟩, ⟨middles, areFirst, areSecond⟩, rfl⟩
        exact ⟨_, ⟨middle, middles, isFirst, areFirst, rfl⟩, .cons isSecond areSecond⟩

/-- Related items may be taken as images of items in between. -/
theorem forall₂_exists_iff {α β γ : Type} (related : α → β → Prop) (image : β → γ)
    (items : List α) (images : List γ) :
    List.Forall₂ (fun item result => ∃ middle, related item middle ∧ result = image middle)
        items images ↔
      ∃ middles, List.Forall₂ related items middles ∧ images = middles.map image := by
  rw [← forall₂_comp_iff]
  refine exists_congr fun middles => and_congr_right fun _ => ?_
  have images_iff : images = middles.map image ↔
      List.Forall₂ (fun result middle => result = image middle) images middles := by
    rw [← List.forall₂_map_right_iff (f := image), List.forall₂_eq_eq_eq]
  rw [images_iff]
  exact ⟨List.Forall₂.flip, List.Forall₂.flip⟩

end ExecutorRegistration
