import Mathlib

/-!
# Results step by step

A result is a value or a fault. What is made of results one after the other is a value exactly if
each of them is. So what is known of the whole is taken apart into what is known of the steps, and
the ways that end in a fault never have to be followed.
-/

namespace ForeignLayer

variable {ε ε' α β : Type}

/-- Two steps come to a value if the first does and the second does with what the first gave. -/
theorem bind_eq_ok {x : Except ε α} {f : α → Except ε β} {b : β} :
    x >>= f = .ok b ↔ ∃ a, x = .ok a ∧ f a = .ok b := by
  cases x with
  | error fault => exact iff_of_false nofun nofun
  | ok a => exact ⟨fun h ↦ ⟨a, rfl, h⟩, fun ⟨_, ha, h⟩ ↦ Except.ok.inj ha ▸ h⟩

theorem map_eq_ok {x : Except ε α} {f : α → β} {b : β} :
    x.map f = .ok b ↔ ∃ a, x = .ok a ∧ f a = b := by
  cases x with
  | error fault => exact iff_of_false nofun nofun
  | ok a =>
    constructor
    · intro h
      exact ⟨a, rfl, Except.ok.inj h⟩
    · rintro ⟨_, ⟨⟩, rfl⟩
      rfl

theorem mapError_eq_ok {x : Except ε α} {f : ε → ε'} {a : α} :
    x.mapError f = .ok a ↔ x = .ok a := by
  cases x with
  | error fault => exact iff_of_false nofun nofun
  | ok a' => rw [Except.mapError, Except.ok.injEq, Except.ok.injEq]

/-! ## Lists -/

section Lists

variable {g : α → Except ε β} {xs : List α} {ys : List β}

theorem mapM_eq_ok_iff : xs.mapM g = .ok ys ↔ List.Forall₂ (fun x y ↦ g x = .ok y) xs ys := by
  induction xs generalizing ys with
  | nil =>
    rw [List.forall₂_nil_left_iff]
    exact ⟨fun h ↦ (Except.ok.inj h).symm, fun h ↦ congrArg Except.ok h.symm⟩
  | cons x xs ih =>
    rw [List.mapM_cons, List.forall₂_cons_left_iff, bind_eq_ok]
    constructor
    · rintro ⟨y, hy, h⟩
      obtain ⟨rest, hrest, ⟨⟩⟩ := bind_eq_ok.mp h
      exact ⟨y, rest, hy, ih.mp hrest, rfl⟩
    · rintro ⟨y, rest, hy, hrest, rfl⟩
      exact ⟨y, hy, bind_eq_ok.mpr ⟨rest, ih.mpr hrest, rfl⟩⟩

theorem exists_mapM_eq_ok (h : ∀ x ∈ xs, ∃ y, g x = .ok y) : ∃ ys, xs.mapM g = .ok ys := by
  induction xs with
  | nil => exact ⟨[], rfl⟩
  | cons x xs ih =>
    rw [List.forall_mem_cons] at h
    obtain ⟨⟨y, hy⟩, hxs⟩ := h
    obtain ⟨ys, hys⟩ := ih hxs
    exact ⟨y :: ys, mapM_eq_ok_iff.mpr (.cons hy (mapM_eq_ok_iff.mp hys))⟩

theorem mapM_eq_ok_of_forall {r : α → β} (h : ∀ x ∈ xs, g x = .ok (r x)) :
    xs.mapM g = .ok (xs.map r) := by
  rw [mapM_eq_ok_iff, List.forall₂_map_right_iff, List.forall₂_same]
  exact h

/-- What is mapped to the end is mapped element by element. -/
theorem exists_of_mapM_eq_ok [Inhabited β] (h : xs.mapM g = .ok ys) :
    ∃ r : α → β, (∀ x ∈ xs, g x = .ok (r x)) ∧ ys = xs.map r := by
  let r (x : α) : β := (g x).toOption.getD default
  have hall : ∀ x ∈ xs, g x = .ok (r x) := by
    induction mapM_eq_ok_iff.mp h with
    | nil => exact List.forall_mem_nil _
    | cons hy hrest ih =>
      have hr := congrArg (fun result ↦ result.toOption.getD default) hy
      exact List.forall_mem_cons.mpr
        ⟨hy.trans (congrArg Except.ok hr.symm), ih (mapM_eq_ok_iff.mpr hrest)⟩
  refine ⟨r, hall, ?_⟩
  rw [mapM_eq_ok_of_forall hall, Except.ok.injEq] at h
  exact h.symm

/-- The element of a list that is found first is mapped to what stands in its place. -/
theorem exists_of_mapM (h : xs.mapM g = .ok ys) {p : α → Bool} {x : α} (hx : xs.find? p = some x) :
    ∃ y, (xs.findIdx? p).bind (ys[·]?) = some y ∧ g x = .ok y := by
  induction mapM_eq_ok_iff.mp h with
  | nil => cases hx
  | @cons x' y' xs ys hy hrest ih =>
    rw [List.find?_cons] at hx
    rw [List.findIdx?_cons]
    split at hx
    · next hp =>
      cases hx
      rw [hp]
      exact ⟨y', rfl, hy⟩
    · next hp =>
      obtain ⟨y, hfound, hgx⟩ := ih (mapM_eq_ok_iff.mpr hrest) hx
      obtain ⟨i, hi, hget⟩ := Option.bind_eq_some_iff.mp hfound
      refine ⟨y, ?_, hgx⟩
      rw [hp, hi]
      exact hget

theorem forM_eq_ok {check : α → Except ε Unit} :
    xs.forM check = .ok () ↔ ∀ x ∈ xs, check x = .ok () := by
  induction xs with
  | nil => exact iff_of_true rfl (List.forall_mem_nil _)
  | cons x xs ih =>
    rw [List.forall_mem_cons, ← ih]
    refine bind_eq_ok.trans ⟨?_, fun ⟨hx, hxs⟩ ↦ ⟨(), hx, hxs⟩⟩
    rintro ⟨_, hx, hxs⟩
    exact ⟨hx, hxs⟩

end Lists

end ForeignLayer
