import Mathlib.Data.List.Forall2

/-!
Operations that may fail. What a sequence of them answers is answered step by step, and a list that is
made item by item has the properties of the items.
-/

namespace AgendaLinks

variable {α β ε : Type}

section

variable {x : Except ε α} {b : β}

theorem exists_of_isOk (h : x.isOk = true) : ∃ a, x = .ok a := by
  cases x with
  | error fault => cases h
  | ok a => exact ⟨a, rfl⟩

theorem bind_of_eq_ok {a : α} (h : x = .ok a) (f : α → Except ε β) : (x >>= f) = f a := by
  rw [h]
  rfl

theorem bind_of_eq_error {fault : ε} (h : x = .error fault) (f : α → Except ε β) :
    (x >>= f) = .error fault := by
  rw [h]
  rfl

theorem exists_of_bind_eq_ok {f : α → Except ε β} (h : (x >>= f) = .ok b) :
    ∃ a, x = .ok a ∧ f a = .ok b := by
  cases x with
  | error fault => cases h
  | ok a => exact ⟨a, rfl, h⟩

theorem exists_of_map_eq_ok {f : α → β} (h : x.map f = .ok b) : ∃ a, x = .ok a ∧ f a = b := by
  cases x with
  | error fault => cases h
  | ok a => exact ⟨a, rfl, Except.ok.inj h⟩

theorem toOption_map (f : α → β) (x : Except ε α) : (f <$> x).toOption = x.toOption.map f := by
  cases x <;> rfl

theorem exists_bind_eq_ok_iff {f : α → Except ε β} :
    (∃ b, (x >>= f) = .ok b) ↔ ∃ a, x = .ok a ∧ ∃ b, f a = .ok b := by
  constructor
  · rintro ⟨b, h⟩
    obtain ⟨a, hx, hf⟩ := exists_of_bind_eq_ok h
    exact ⟨a, hx, b, hf⟩
  · rintro ⟨a, rfl, hf⟩
    exact hf

theorem exists_map_eq_ok_iff {f : α → β} : (∃ b, x.map f = .ok b) ↔ ∃ a, x = .ok a := by
  cases x with
  | error fault => exact iff_of_false nofun nofun
  | ok a => exact iff_of_true ⟨_, rfl⟩ ⟨a, rfl⟩

end

section

variable {xs : List α} {ys : List β}

theorem forall₂_of_mapM_eq_ok {f : α → Except ε β} (h : xs.mapM f = .ok ys) :
    List.Forall₂ (fun x y => f x = .ok y) xs ys := by
  induction xs generalizing ys with
  | nil =>
      cases h
      exact .nil
  | cons x xs ih =>
      rw [List.mapM_cons] at h
      obtain ⟨y, hx, h⟩ := exists_of_bind_eq_ok h
      obtain ⟨rest, hxs, h⟩ := exists_of_bind_eq_ok h
      cases h
      exact .cons hx (ih hxs)

theorem mapM_eq_ok {f : α → Except ε β} {g : α → β} (h : ∀ x ∈ xs, f x = .ok (g x)) :
    xs.mapM f = .ok (xs.map g) := by
  induction xs with
  | nil => rfl
  | cons x xs ih =>
      rw [List.mapM_cons, h x List.mem_cons_self, ih fun y hy => h y (List.mem_cons_of_mem x hy)]
      rfl

theorem exists_mapM_eq_ok_iff {f : α → Except ε β} :
    (∃ ys, xs.mapM f = .ok ys) ↔ ∀ x ∈ xs, ∃ y, f x = .ok y := by
  induction xs with
  | nil => exact iff_of_true ⟨[], rfl⟩ nofun
  | cons x xs ih =>
      rw [List.mapM_cons, exists_bind_eq_ok_iff, List.forall_mem_cons, ← ih]
      constructor
      · rintro ⟨y, hx, h⟩
        obtain ⟨ys, hxs, -⟩ := exists_bind_eq_ok_iff.1 h
        exact ⟨⟨y, hx⟩, ys, hxs⟩
      · rintro ⟨⟨y, hx⟩, ys, hxs⟩
        exact ⟨y, hx, exists_bind_eq_ok_iff.2 ⟨ys, hxs, y :: ys, rfl⟩⟩

/-- The first item that cannot be made decides. -/
theorem mapM_append_eq_error {f : α → Except ε β} {before after : List α} {x : α} {fault : ε}
    (hbefore : ∀ y ∈ before, ∃ z, f y = .ok z) (hx : f x = .error fault) :
    (before ++ x :: after).mapM f = .error fault := by
  induction before with
  | nil => rw [List.nil_append, List.mapM_cons, bind_of_eq_error hx]
  | cons y before ih =>
      obtain ⟨⟨z, hz⟩, hrest⟩ := List.forall_mem_cons.1 hbefore
      rw [List.cons_append, List.mapM_cons, bind_of_eq_ok hz, ih hrest]
      rfl

variable {R : α → β → Prop} {P : α → Prop} {q : β → Bool}

theorem exists_of_mem_of_forall₂ (h : List.Forall₂ R xs ys) {y : β} (hy : y ∈ ys) :
    ∃ x ∈ xs, R x y := by
  induction h with
  | nil => cases hy
  | cons hxy _ ih =>
      rcases List.mem_cons.1 hy with rfl | hrest
      · exact ⟨_, List.mem_cons_self, hxy⟩
      · obtain ⟨x, hx, hxy⟩ := ih hrest
        exact ⟨x, List.mem_cons_of_mem _ hx, hxy⟩

/-- Where an item is made, the items before it and after it are made around it. -/
theorem exists_append_of_forall₂ {before after : List β} {y : β}
    (h : List.Forall₂ R xs (before ++ y :: after)) :
    ∃ before' x after', xs = before' ++ x :: after' ∧ List.Forall₂ R before' before ∧ R x y := by
  induction before generalizing xs with
  | nil =>
      obtain ⟨x, xs, hxy, -, rfl⟩ := List.forall₂_cons_right_iff.1 h
      exact ⟨[], x, xs, rfl, .nil, hxy⟩
  | cons z before ih =>
      obtain ⟨w, xs, hwz, hrest, rfl⟩ := List.forall₂_cons_right_iff.1 h
      obtain ⟨before', x, after', rfl, hbefore, hxy⟩ := ih hrest
      exact ⟨w :: before', x, after', rfl, .cons hwz hbefore, hxy⟩

theorem exists_of_mem_left_of_forall₂ (h : List.Forall₂ R xs ys) {x : α} (hx : x ∈ xs) :
    ∃ y ∈ ys, R x y :=
  exists_of_mem_of_forall₂ (List.Forall₂.flip (R := flip R) h) hx

theorem any_iff_of_forall₂ (h : List.Forall₂ R xs ys) (hq : ∀ x y, R x y → (q y = true ↔ P x)) :
    ys.any q = true ↔ ∃ x ∈ xs, P x := by
  induction h with
  | nil => simp
  | cons hxy _ ih => rw [List.any_cons, Bool.or_eq_true, hq _ _ hxy, ih, List.exists_mem_cons_iff]

theorem all_iff_of_forall₂ (h : List.Forall₂ R xs ys) (hq : ∀ x y, R x y → (q y = true ↔ P x)) :
    ys.all q = true ↔ ∀ x ∈ xs, P x := by
  induction h with
  | nil => simp
  | cons hxy _ ih => rw [List.all_cons, Bool.and_eq_true, hq _ _ hxy, ih, List.forall_mem_cons]

end

end AgendaLinks
