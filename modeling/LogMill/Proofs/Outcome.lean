import Mathlib.Data.List.Forall2

namespace LogMill

variable {α β γ ε φ : Type}

theorem map_eq_map_of_forall₂ {R : α → β → Prop} {f : α → γ} {g : β → γ} {xs : List α} {ys : List β}
    (h : List.Forall₂ R xs ys) (hR : ∀ x ∈ xs, ∀ y, R x y → g y = f x) : ys.map g = xs.map f := by
  induction h with
  | nil => rfl
  | @cons x y xs ys hxy _ ih =>
    rw [List.map_cons, List.map_cons, hR x (by simp) y hxy, ih fun x hx => hR x (List.mem_cons_of_mem _ hx)]

theorem forall_prefix_concat {P : List α → α → Prop} {xs : List α} {x : α}
    (h : ∀ before a, before ++ [a] <+: xs → P before a) (hx : P xs x) :
    ∀ before a, before ++ [a] <+: xs ++ [x] → P before a := by
  intro before a hbefore
  rcases List.prefix_concat_iff.mp hbefore with heq | hbefore
  · obtain ⟨rfl, rfl⟩ := List.append_inj' heq rfl |>.imp_right List.singleton_inj.mp
    exact hx
  · exact h before a hbefore

namespace Outcome

theorem bind_eq_ok {x : Except ε α} {f : α → Except ε β} {b : β} :
    (x >>= f) = .ok b ↔ ∃ a, x = .ok a ∧ f a = .ok b := by
  cases x <;> simp [bind, Except.bind]

theorem map_eq_ok {x : Except ε α} {f : α → β} {b : β} : x.map f = .ok b ↔ ∃ a, x = .ok a ∧ f a = b := by
  cases x <;> simp [Except.map]

theorem mapError_eq_ok {x : Except ε α} {f : ε → φ} {a : α} : x.mapError f = .ok a ↔ x = .ok a := by
  cases x <;> simp [Except.mapError]

theorem bind_eq_error {x : Except ε α} {f : α → Except ε β} {e : ε} :
    (x >>= f) = .error e ↔ x = .error e ∨ ∃ a, x = .ok a ∧ f a = .error e := by
  cases x <;> simp [bind, Except.bind]

theorem mapError_eq_error {x : Except ε α} {f : ε → φ} {e : φ} :
    x.mapError f = .error e ↔ ∃ d, x = .error d ∧ f d = e := by
  cases x <;> simp [Except.mapError]

theorem mapM_eq_ok {f : α → Except ε β} {xs : List α} {ys : List β} :
    xs.mapM f = .ok ys ↔ List.Forall₂ (fun x y => f x = .ok y) xs ys := by
  induction xs generalizing ys with
  | nil => cases ys <;> simp [pure, Except.pure]
  | cons x xs ih =>
    rw [List.mapM_cons]
    simp only [bind_eq_ok, ih, pure, Except.pure, Except.ok.injEq]
    constructor
    · rintro ⟨y, hy, zs, hzs, rfl⟩
      exact .cons hy hzs
    · intro h
      cases h with
      | cons hy hzs => exact ⟨_, hy, _, hzs, rfl⟩

theorem mapM_map_eq_ok {g : α → β} {f : β → Except ε γ} {p : α → Prop} {k : α → γ}
    (h : ∀ x z, f (g x) = .ok z ↔ p x ∧ z = k x) {xs : List α} {zs : List γ} :
    (xs.map g).mapM f = .ok zs ↔ (∀ x ∈ xs, p x) ∧ zs = xs.map k := by
  rw [mapM_eq_ok]
  induction xs generalizing zs with
  | nil => simp
  | cons x xs ih =>
    rw [List.map_cons, List.forall₂_cons_left_iff]
    constructor
    · rintro ⟨z, zs, hz, hzs, rfl⟩
      obtain ⟨hx, rfl⟩ := (h x z).mp hz
      obtain ⟨hxs, rfl⟩ := ih.mp hzs
      exact ⟨by simpa [hx] using hxs, rfl⟩
    · rintro ⟨hxs, rfl⟩
      exact ⟨k x, xs.map k, (h x _).mpr ⟨hxs x (by simp), rfl⟩, ih.mpr ⟨fun y hy => hxs y (by simp [hy]), rfl⟩, rfl⟩

theorem mapM_eq_ok_inverse {f : α → Except ε β} {g : β → α} {p : β → Prop} (h : ∀ x y, f x = .ok y ↔ g y = x ∧ p y)
    {xs : List α} {ys : List β} : xs.mapM f = .ok ys ↔ ys.map g = xs ∧ ∀ y ∈ ys, p y := by
  rw [mapM_eq_ok]
  induction xs generalizing ys with
  | nil => cases ys <;> simp
  | cons x xs ih =>
    cases ys with
    | nil => simp
    | cons y ys =>
      rw [List.forall₂_cons, h, ih, List.map_cons, List.cons.injEq, List.forall_mem_cons]
      exact and_and_and_comm

theorem mapM_append_ok {f : α → Except ε β} {xs xs' : List α} {ys ys' : List β}
    (h : xs.mapM f = .ok ys) (h' : xs'.mapM f = .ok ys') : (xs ++ xs').mapM f = .ok (ys ++ ys') :=
  mapM_eq_ok.mpr (List.rel_append (mapM_eq_ok.mp h) (mapM_eq_ok.mp h'))

theorem exists_mapM_ok {f : α → Except ε β} {xs : List α} (h : ∀ x ∈ xs, ∃ y, f x = .ok y) :
    ∃ ys, xs.mapM f = .ok ys := by
  induction xs with
  | nil => exact ⟨[], rfl⟩
  | cons x xs ih =>
    obtain ⟨y, hy⟩ := h x (by simp)
    obtain ⟨ys, hys⟩ := ih fun x hx => h x (List.mem_cons_of_mem _ hx)
    exact ⟨y :: ys, mapM_eq_ok.mpr (.cons hy (mapM_eq_ok.mp hys))⟩

theorem exists_mapM_iff {f : α → Except ε β} {xs : List α} :
    (∃ ys, xs.mapM f = .ok ys) ↔ ∀ x ∈ xs, ∃ y, f x = .ok y := by
  constructor
  · rintro ⟨ys, h⟩ x hx
    obtain ⟨i, hi, rfl⟩ := List.mem_iff_getElem.mp hx
    have hr := mapM_eq_ok.mp h
    exact ⟨_, hr.get hi (hr.length_eq ▸ hi)⟩
  · exact exists_mapM_ok

theorem exists_of_mapM_error {f : α → Except ε β} {xs : List α} {e : ε} (h : xs.mapM f = .error e) :
    ∃ x ∈ xs, f x = .error e := by
  induction xs with
  | nil => simp [pure, Except.pure] at h
  | cons x xs ih =>
    rw [List.mapM_cons] at h
    simp only [bind_eq_error, pure, Except.pure, reduceCtorEq, and_false, exists_false, or_false] at h
    obtain hx | ⟨y, -, hxs⟩ := h
    · exact ⟨x, by simp, hx⟩
    · obtain ⟨x', hx', he⟩ := ih hxs
      exact ⟨x', List.mem_cons_of_mem _ hx', he⟩

theorem mapM_length {f : α → Except ε β} {xs : List α} {ys : List β} (h : xs.mapM f = .ok ys) :
    ys.length = xs.length := (mapM_eq_ok.mp h).length_eq.symm

theorem map_eq_of_mapM {f : α → Except ε β} {g : β → γ} {k : α → γ} {xs : List α} {ys : List β}
    (h : xs.mapM f = .ok ys) (hg : ∀ x ∈ xs, ∀ y, f x = .ok y → g y = k x) : ys.map g = xs.map k :=
  map_eq_map_of_forall₂ (mapM_eq_ok.mp h) hg

theorem exists_of_mem_mapM {f : α → Except ε β} {xs : List α} {ys : List β} (h : xs.mapM f = .ok ys) {y : β}
    (hy : y ∈ ys) : ∃ x ∈ xs, f x = .ok y := by
  have hr := mapM_eq_ok.mp h
  induction hr with
  | nil => simp at hy
  | @cons x z xs zs hz hzs ih =>
    rcases List.mem_cons.mp hy with rfl | hy
    · exact ⟨x, by simp, hz⟩
    · obtain ⟨x', hx', he⟩ := ih (mapM_eq_ok.mpr hzs) hy
      exact ⟨x', List.mem_cons_of_mem _ hx', he⟩

theorem mapM_getElem? {f : α → Except ε β} {xs : List α} {ys : List β} (h : xs.mapM f = .ok ys) {i : Nat} {x : α}
    (hx : xs[i]? = some x) : ∃ y, ys[i]? = some y ∧ f x = .ok y := by
  obtain ⟨hi, rfl⟩ := List.getElem?_eq_some_iff.mp hx
  have hr := mapM_eq_ok.mp h
  have hi' : i < ys.length := hr.length_eq ▸ hi
  exact ⟨ys[i], List.getElem?_eq_getElem hi', hr.get hi hi'⟩

end Outcome

end LogMill
