import Mathlib.Data.List.Forall2

/-!
# Traversals that may fail

A traversal of a list succeeds when it does so at every element, and otherwise fails with the failure of
the first element that fails.
-/
namespace StackQuery

variable {ε α β : Type}

theorem bind_eq_ok_iff {x : Except ε α} {f : α → Except ε β} {b : β} :
    (x >>= f) = .ok b ↔ ∃ a, x = .ok a ∧ f a = .ok b := by
  cases x <;> simp [bind, Except.bind]

theorem bind_eq_error_iff {x : Except ε α} {f : α → Except ε β} {e : ε} :
    (x >>= f) = .error e ↔ x = .error e ∨ ∃ a, x = .ok a ∧ f a = .error e := by
  cases x <;> simp [bind, Except.bind]

theorem exists_bind_error_iff {x : Except ε α} {f : α → Except ε β} :
    (∃ e, x >>= f = .error e) ↔ (∃ e, x = .error e) ∨ ∃ a, x = .ok a ∧ ∃ e, f a = .error e := by
  cases x <;> simp [bind, Except.bind]

theorem map_eq_ok_iff {x : Except ε α} {f : α → β} {b : β} : x.map f = .ok b ↔ ∃ a, x = .ok a ∧ f a = b := by
  cases x <;> simp [Except.map]

theorem map_eq_error_iff {x : Except ε α} {f : α → β} {e : ε} : x.map f = .error e ↔ x = .error e := by
  cases x <;> simp [Except.map]

theorem mapError_eq_ok_iff {ε' : Type} {x : Except ε α} {f : ε → ε'} {a : α} :
    x.mapError f = .ok a ↔ x = .ok a := by
  cases x <;> simp [Except.mapError]

theorem mapError_eq_error_iff {ε' : Type} {x : Except ε α} {f : ε → ε'} {e' : ε'} :
    x.mapError f = .error e' ↔ ∃ e, x = .error e ∧ f e = e' := by
  cases x <;> simp [Except.mapError]

theorem forIn_eq_ok_iff {f : α → Except ε PUnit} {xs : List α} {u : PUnit} :
    (forIn xs PUnit.unit fun x _ => do f x; pure (.yield PUnit.unit)) = .ok u ↔ ∀ x ∈ xs, f x = .ok .unit := by
  induction xs with
  | nil => simp [pure, Except.pure]
  | cons x xs ih =>
    rw [List.forIn_cons, List.forall_mem_cons, ← ih]
    cases f x <;> simp [bind, Except.bind, pure, Except.pure]

theorem mapM_eq_error_iff {f : α → Except ε β} {xs : List α} {e : ε} :
    xs.mapM f = .error e ↔
      ∃ before x after, xs = before ++ x :: after ∧ (∀ y ∈ before, ∃ z, f y = .ok z) ∧
        f x = .error e := by
  induction xs with
  | nil => simp [pure, Except.pure]
  | cons x rest ih =>
    rw [List.mapM_cons]
    cases hx : f x with
    | error e' =>
      constructor
      · intro h
        cases h
        exact ⟨[], x, rest, rfl, by simp, hx⟩
      · rintro ⟨before, y, after, heq, hbefore, hy⟩
        cases before with
        | nil =>
          cases heq
          cases hx.symm.trans hy
          rfl
        | cons z before =>
          cases heq
          obtain ⟨w, hw⟩ := hbefore x (by simp)
          rw [hx] at hw
          cases hw
    | ok z =>
      have hrest : (do let z ← Except.ok z; let zs ← rest.mapM f; pure (z :: zs)) = .error e ↔
          rest.mapM f = .error e := by
        cases rest.mapM f <;> simp [bind, Except.bind, pure, Except.pure]
      rw [hrest, ih]
      constructor
      · rintro ⟨before, y, after, rfl, hbefore, hy⟩
        refine ⟨x :: before, y, after, rfl, ?_, hy⟩
        intro w hw
        rcases List.mem_cons.mp hw with rfl | hw
        · exact ⟨z, hx⟩
        · exact hbefore w hw
      · rintro ⟨before, y, after, heq, hbefore, hy⟩
        cases before with
        | nil =>
          cases heq
          rw [hx] at hy
          cases hy
        | cons w before =>
          cases heq
          exact ⟨before, y, after, rfl, fun v hv => hbefore v (List.mem_cons_of_mem _ hv), hy⟩

/-- A loop that only checks its elements fails at the first that does not pass. -/
theorem forIn_eq_error_iff {f : α → Except ε PUnit.{1}} {xs : List α} {e : ε} :
    (forIn xs PUnit.unit fun x _ => do f x; pure (.yield PUnit.unit)) = .error e ↔
      ∃ before x after, xs = before ++ x :: after ∧ (∀ y ∈ before, f y = .ok .unit) ∧ f x = .error e := by
  have hloop : (forIn xs PUnit.unit fun x _ => do f x; pure (.yield PUnit.unit)) = (xs.mapM f).map fun _ => .unit := by
    induction xs with
    | nil => rfl
    | cons x xs ih =>
      rw [List.forIn_cons, List.mapM_cons]
      cases f x with
      | error e => rfl
      | ok u =>
        change forIn xs PUnit.unit _ = (xs.mapM f >>= fun us => pure (u :: us)).map fun _ => .unit
        rw [ih]
        cases xs.mapM f <;> rfl
  rw [hloop]
  have herror : ((xs.mapM f).map fun _ => PUnit.unit) = .error e ↔ xs.mapM f = .error e := by
    cases xs.mapM f <;> simp [Except.map]
  have hunit (y : α) : (∃ z, f y = .ok z) ↔ f y = .ok .unit := ⟨fun ⟨_, h⟩ => h, fun h => ⟨_, h⟩⟩
  rw [herror, mapM_eq_error_iff]
  simp only [hunit]

theorem mapM_eq_ok_iff {f : α → Except ε β} {xs : List α} {ys : List β} :
    xs.mapM f = .ok ys ↔ List.Forall₂ (fun x y => f x = .ok y) xs ys := by
  induction xs generalizing ys with
  | nil => simp [pure, Except.pure, eq_comm]
  | cons x rest ih =>
    rw [List.mapM_cons, List.forall₂_cons_left_iff]
    cases hx : f x with
    | error e => simp [bind, Except.bind]
    | ok y =>
      simp only [← ih]
      cases rest.mapM f with
      | error e => simp [bind, Except.bind]
      | ok zs => simp [bind, Except.bind, pure, Except.pure, eq_comm]

theorem mapM_eq_ok_map {f : α → Except ε β} {g : α → β} {xs : List α} (h : ∀ x ∈ xs, f x = .ok (g x)) :
    xs.mapM f = .ok (xs.map g) := by
  rw [mapM_eq_ok_iff, List.forall₂_map_right_iff, List.forall₂_same]
  exact h

theorem eq_map_of_mapM_eq_ok {f : α → Except ε β} {g : α → β} {xs : List α} {ys : List β} (h : xs.mapM f = .ok ys)
    (hf : ∀ x y, f x = .ok y → y = g x) : ys = xs.map g := by
  have hall : List.Forall₂ Eq (xs.map g) ys :=
    List.forall₂_map_left_iff.mpr ((mapM_eq_ok_iff.mp h).imp fun x y hxy => (hf x y hxy).symm)
  rw [List.forall₂_eq_eq_eq] at hall
  exact hall.symm

theorem exists_mapM_iff {f : α → Except ε β} {xs : List α} :
    (∃ ys, xs.mapM f = .ok ys) ↔ ∀ x ∈ xs, ∃ y, f x = .ok y := by
  constructor
  · rintro ⟨ys, h⟩
    induction mapM_eq_ok_iff.mp h with
    | nil => simp
    | cons hfirst hrest ih =>
      intro x hx
      rcases List.mem_cons.mp hx with rfl | hx
      · exact ⟨_, hfirst⟩
      · exact ih (mapM_eq_ok_iff.mpr hrest) x hx
  · intro h
    cases hxs : xs.mapM f with
    | ok ys => exact ⟨ys, rfl⟩
    | error e =>
      obtain ⟨before, x, after, rfl, -, hx⟩ := mapM_eq_error_iff.mp hxs
      obtain ⟨y, hy⟩ := h x (by simp)
      rw [hx] at hy
      cases hy

theorem filterAuxM_eq (p : α → Except ε Bool) (xs acc : List α) :
    xs.filterAuxM p acc = (xs.filterAuxM p []).map (· ++ acc) := by
  induction xs generalizing acc with
  | nil => rfl
  | cons x rest ih =>
    simp only [List.filterAuxM]
    cases p x with
    | error e => rfl
    | ok b =>
      change rest.filterAuxM p (cond b (x :: acc) acc) = (rest.filterAuxM p (cond b [x] [])).map (· ++ acc)
      rw [ih, ih (cond b [x] [])]
      cases rest.filterAuxM p [] <;> cases b <;> simp [Except.map]

theorem filterM_cons (p : α → Except ε Bool) (x : α) (rest : List α) :
    (x :: rest).filterM p = p x >>= fun keep => (rest.filterM p).map (cond keep [x] [] ++ ·) := by
  simp only [List.filterM, List.filterAuxM]
  cases p x with
  | error e => rfl
  | ok keep =>
    change (rest.filterAuxM p (cond keep [x] []) >>= fun ys => pure ys.reverse) = _
    rw [filterAuxM_eq]
    cases rest.filterAuxM p [] <;> cases keep <;> simp [Except.map, bind, Except.bind, pure, Except.pure]

theorem filterM_eq_ok {p : α → Except ε Bool} {xs ys : List α} (h : xs.filterM p = .ok ys) :
    (∀ x ∈ xs, ∃ b, p x = .ok b) ∧ ∀ x, x ∈ ys ↔ x ∈ xs ∧ p x = .ok true := by
  induction xs generalizing ys with
  | nil =>
    cases h
    simp
  | cons x rest ih =>
    rw [filterM_cons] at h
    obtain ⟨keep, hkeep, hrest⟩ := bind_eq_ok_iff.mp h
    cases hys : rest.filterM p with
    | error e =>
      rw [hys] at hrest
      cases hrest
    | ok kept =>
      rw [hys] at hrest
      cases hrest
      obtain ⟨hall, hmem⟩ := ih hys
      refine ⟨List.forall_mem_cons.mpr ⟨⟨keep, hkeep⟩, hall⟩, fun y => ?_⟩
      rw [List.mem_append, hmem, List.mem_cons, or_and_right]
      refine or_congr_left ⟨fun hy => ?_, ?_⟩
      · cases keep with
        | false => cases hy
        | true =>
          obtain rfl := List.mem_singleton.mp hy
          exact ⟨rfl, hkeep⟩
      · rintro ⟨rfl, hy⟩
        cases hkeep.symm.trans hy
        exact List.mem_singleton_self y

theorem filterM_eq_error {p : α → Except ε Bool} {xs : List α} {e : ε} (h : xs.filterM p = .error e) :
    ∃ x ∈ xs, p x = .error e := by
  induction xs with
  | nil => cases h
  | cons x rest ih =>
    rw [filterM_cons] at h
    cases hx : p x with
    | error e' =>
      rw [hx] at h
      cases h
      exact ⟨x, List.mem_cons_self, hx⟩
    | ok keep =>
      rw [hx] at h
      cases hrest : rest.filterM p with
      | error e' =>
        rw [hrest] at h
        cases h
        obtain ⟨y, hy, hfail⟩ := ih hrest
        exact ⟨y, List.mem_cons_of_mem x hy, hfail⟩
      | ok kept =>
        rw [hrest] at h
        cases h

theorem exists_of_mem_mapM {f : α → Except ε β} {xs : List α} {ys : List β} (h : xs.mapM f = .ok ys) {y : β}
    (hy : y ∈ ys) : ∃ x ∈ xs, f x = .ok y := by
  induction mapM_eq_ok_iff.mp h with
  | nil => cases hy
  | cons hfirst hrest ih =>
    rcases List.mem_cons.mp hy with rfl | hy
    · exact ⟨_, List.mem_cons_self, hfirst⟩
    · obtain ⟨x, hx, hfx⟩ := ih (mapM_eq_ok_iff.mpr hrest) hy
      exact ⟨x, List.mem_cons_of_mem _ hx, hfx⟩

/-- A traversal of fewer elements gives fewer of the results, in the same order. -/
theorem mapM_sublist {f : α → Except ε β} {xs xs' : List α} {ys ys' : List β} (h : xs.Sublist xs')
    (hys : xs.mapM f = .ok ys) (hys' : xs'.mapM f = .ok ys') : ys.Sublist ys' := by
  rw [mapM_eq_ok_iff] at hys hys'
  induction h generalizing ys ys' with
  | slnil =>
    cases hys
    exact List.nil_sublist ys'
  | cons _ _ ih =>
    cases hys' with
    | cons _ hrest' => exact (ih hys hrest').cons _
  | cons_cons _ _ ih =>
    cases hys with
    | cons hfirst hrest =>
      cases hys' with
      | cons hfirst' hrest' =>
        cases hfirst.symm.trans hfirst'
        exact (ih hrest hrest').cons_cons _

theorem mapM_isPrefix {f : α → Except ε β} {xs xs' : List α} {ys ys' : List β} (h : xs <+: xs')
    (hys : xs.mapM f = .ok ys) (hys' : xs'.mapM f = .ok ys') : ys <+: ys' := by
  obtain ⟨rest, rfl⟩ := h
  rw [List.mapM_append] at hys'
  obtain ⟨first, hfirst, hlater⟩ := bind_eq_ok_iff.mp hys'
  obtain ⟨later, -, hmake⟩ := bind_eq_ok_iff.mp hlater
  cases hys.symm.trans hfirst
  cases hmake
  exact List.prefix_append ys later

/-- A loop that adds to a value fails if one of its elements does, where failing depends on the element alone. -/
theorem exists_foldlM_error_iff {f : β → α → Except ε β} {bad : α → Prop}
    (h : ∀ b a, (∃ e, f b a = .error e) ↔ bad a) (xs : List α) (b : β) :
    (∃ e, xs.foldlM f b = .error e) ↔ ∃ a ∈ xs, bad a := by
  induction xs generalizing b with
  | nil => simp [pure, Except.pure]
  | cons x xs ih =>
    rw [List.foldlM_cons]
    cases hx : f b x with
    | error e =>
      have hbad : bad x := (h b x).mp ⟨e, hx⟩
      exact ⟨fun _ => ⟨x, List.mem_cons_self, hbad⟩, fun _ => ⟨e, rfl⟩⟩
    | ok b' =>
      have hgood : ¬ bad x := fun hbad => by
        obtain ⟨e, he⟩ := (h b x).mpr hbad
        cases hx.symm.trans he
      simp only [List.mem_cons, exists_eq_or_imp, hgood, false_or]
      exact ih b'

theorem exists_mapM_error_iff {f : α → Except ε β} {xs : List α} :
    (∃ e, xs.mapM f = .error e) ↔ ∃ a ∈ xs, ∃ e, f a = .error e := by
  constructor
  · rintro ⟨e, h⟩
    obtain ⟨before, x, after, rfl, -, hx⟩ := mapM_eq_error_iff.mp h
    exact ⟨x, by simp, e, hx⟩
  · rintro ⟨x, hx, e, he⟩
    cases h : xs.mapM f with
    | error e' => exact ⟨e', rfl⟩
    | ok ys =>
      obtain ⟨y, hy⟩ := exists_mapM_iff.mp ⟨ys, h⟩ x hx
      cases he.symm.trans hy

end StackQuery
