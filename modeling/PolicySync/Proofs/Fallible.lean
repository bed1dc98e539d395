import Mathlib.Data.List.Forall2

/-!
# Results that may fail

When a sequence of fallible steps succeeds, each of its steps did.
-/

namespace PolicySync.Fallible

variable {α β γ ε ε' : Type}

/-- Two steps end well when both do. -/
theorem bind_eq_ok {x : Except ε α} {f : α → Except ε β} {b : β} :
    (x >>= f) = .ok b ↔ ∃ a, x = .ok a ∧ f a = .ok b := by
  cases x with
  | error e =>
    constructor
    · intro h
      cases h
    · rintro ⟨a, ha, -⟩
      cases ha
  | ok a =>
    constructor
    · intro h
      exact ⟨a, rfl, h⟩
    · rintro ⟨a', ha, h⟩
      cases ha
      exact h

/-- A check that comes first has to succeed. -/
theorem bind_unit_eq_ok {x : Except ε Unit} {f : Unit → Except ε β} {b : β} :
    (x >>= f) = .ok b ↔ x = .ok () ∧ f () = .ok b := by
  rw [bind_eq_ok]
  exact ⟨fun ⟨(), hx, hf⟩ => ⟨hx, hf⟩, fun ⟨hx, hf⟩ => ⟨(), hx, hf⟩⟩

/-- They fail with the first error. -/
theorem bind_eq_error {x : Except ε α} {f : α → Except ε β} {e : ε} :
    (x >>= f) = .error e ↔ x = .error e ∨ ∃ a, x = .ok a ∧ f a = .error e := by
  cases x with
  | error e' =>
    constructor
    · intro h
      cases h
      exact .inl rfl
    · rintro (h | ⟨a, ha, -⟩)
      · cases h
        rfl
      · cases ha
  | ok a =>
    constructor
    · intro h
      exact .inr ⟨a, rfl, h⟩
    · rintro (h | ⟨a', ha, h⟩)
      · cases h
      · cases ha
        exact h

/-- A value is its own result. -/
theorem pure_eq_ok {a b : α} : (pure a : Except ε α) = .ok b ↔ a = b := by
  show Except.ok a = .ok b ↔ a = b
  rw [Except.ok.injEq]

/-- Whether a step ends well does not depend on what is made of its result. -/
theorem map_eq_ok {x : Except ε α} {f : α → β} {b : β} :
    x.map f = .ok b ↔ ∃ a, x = .ok a ∧ f a = b := by
  cases x with
  | error e => simp [Except.map]
  | ok a => simp [Except.map]

/-- Nor on what is made of its error. -/
theorem mapError_eq_ok {x : Except ε α} {f : ε → ε'} {a : α} :
    x.mapError f = .ok a ↔ x = .ok a := by
  cases x with
  | error e => simp [Except.mapError]
  | ok b => simp [Except.mapError]

/-- A translated error comes from one. -/
theorem mapError_eq_error {x : Except ε α} {f : ε → ε'} {e' : ε'} :
    x.mapError f = .error e' ↔ ∃ e, x = .error e ∧ f e = e' := by
  cases x with
  | error e => simp [Except.mapError]
  | ok b => simp [Except.mapError]

/-- Without its error a step is what it ends well with. -/
theorem toOption_eq_some {x : Except ε α} {a : α} : x.toOption = some a ↔ x = .ok a := by
  cases x with
  | error e => simp [Except.toOption]
  | ok b => simp [Except.toOption]

/-- Mapping a list succeeds when it succeeds on every item. -/
theorem mapM_eq_ok_iff {f : α → Except ε β} {xs : List α} {ys : List β} :
    xs.mapM f = .ok ys ↔ List.Forall₂ (fun x y => f x = .ok y) xs ys := by
  induction xs generalizing ys with
  | nil =>
    rw [List.mapM_nil, pure_eq_ok, List.forall₂_nil_left_iff, eq_comm]
  | cons x xs ih =>
    rw [List.mapM_cons, bind_eq_ok, List.forall₂_cons_left_iff]
    constructor
    · rintro ⟨y, hy, hrest⟩
      obtain ⟨ys', hys', heq⟩ := bind_eq_ok.1 hrest
      exact ⟨y, ys', hy, ih.1 hys', (pure_eq_ok.1 heq).symm⟩
    · rintro ⟨y, ys', hy, hys', rfl⟩
      exact ⟨y, hy, bind_eq_ok.2 ⟨ys', ih.2 hys', rfl⟩⟩

/-- Every value on a list is the value of one of its items. -/
theorem exists_of_mapM_eq_ok {f : α → Except ε β} {xs : List α} {ys : List β}
    (h : xs.mapM f = .ok ys) : ∀ y ∈ ys, ∃ x ∈ xs, f x = .ok y := by
  have hall := mapM_eq_ok_iff.1 h
  clear h
  induction hall with
  | nil => exact fun y hy => absurd hy List.not_mem_nil
  | @cons x y xs ys hxy _ ih =>
    intro y' hy'
    rcases List.mem_cons.1 hy' with rfl | hy'
    · exact ⟨x, List.mem_cons_self, hxy⟩
    · obtain ⟨x', hx', hxy'⟩ := ih y' hy'
      exact ⟨x', List.mem_cons_of_mem _ hx', hxy'⟩

/-- What holds of every value of a function holds of all values of a list. -/
theorem forall_of_mapM_eq_ok {f : α → Except ε β} {P : β → Prop} {xs : List α} {ys : List β}
    (h : xs.mapM f = .ok ys) (hf : ∀ x y, f x = .ok y → P y) : ∀ y ∈ ys, P y := by
  intro y hy
  obtain ⟨x, -, hxy⟩ := exists_of_mapM_eq_ok h y hy
  exact hf x y hxy

/-- The value of an item is on the list of values. -/
theorem mem_of_mapM_eq_ok {f : α → Except ε β} {xs : List α} {ys : List β}
    (h : xs.mapM f = .ok ys) {x : α} (hx : x ∈ xs) {y : β} (hxy : f x = .ok y) : y ∈ ys := by
  have hall := mapM_eq_ok_iff.1 h
  clear h
  induction hall with
  | nil => cases hx
  | @cons x' y' xs ys hxy' _ ih =>
    rcases List.mem_cons.1 hx with rfl | hx
    · rw [hxy] at hxy'
      cases hxy'
      exact List.mem_cons_self
    · exact List.mem_cons_of_mem _ (ih hx)

/-- Lists that are values of items hold together what each of them holds. -/
theorem mem_flatten_of_mapM_eq_ok {f : α → Except ε (List β)} {xs : List α} {yss : List (List β)}
    (h : xs.mapM f = .ok yss) {y : β} :
    y ∈ yss.flatten ↔ ∃ x ∈ xs, ∃ ys, f x = .ok ys ∧ y ∈ ys := by
  rw [List.mem_flatten]
  constructor
  · rintro ⟨ys, hys, hy⟩
    obtain ⟨x, hx, hxy⟩ := exists_of_mapM_eq_ok h ys hys
    exact ⟨x, hx, ys, hxy, hy⟩
  · rintro ⟨x, hx, ys, hxy, hy⟩
    exact ⟨ys, mem_of_mapM_eq_ok h hx hxy, hy⟩

/-- A list is gone through when every item is. -/
theorem exists_mapM_eq_ok_iff {f : α → Except ε β} {xs : List α} :
    (∃ ys, xs.mapM f = .ok ys) ↔ ∀ x ∈ xs, ∃ y, f x = .ok y := by
  induction xs with
  | nil => simp [pure, Except.pure]
  | cons x xs ih =>
    rw [List.forall_mem_cons, ← ih]
    constructor
    · rintro ⟨ys, hys⟩
      rw [List.mapM_cons] at hys
      obtain ⟨y, hy, hys⟩ := bind_eq_ok.1 hys
      obtain ⟨ys', hys', -⟩ := bind_eq_ok.1 hys
      exact ⟨⟨y, hy⟩, ys', hys'⟩
    · rintro ⟨⟨y, hy⟩, ys, hys⟩
      refine ⟨y :: ys, ?_⟩
      rw [List.mapM_cons, hy, hys]
      rfl

/-- Mapping a list fails as the first item does that has no value. -/
theorem mapM_eq_error {f : α → Except ε β} {before after : List α} {x : α} {e : ε}
    (hbefore : ∀ b ∈ before, ∃ y, f b = .ok y) (hx : f x = .error e) :
    (before ++ x :: after).mapM f = .error e := by
  obtain ⟨ys, hys⟩ := exists_mapM_eq_ok_iff.2 hbefore
  rw [List.mapM_append, hys, List.mapM_cons, hx]
  rfl

/-- Mapping a list of images succeeds when it does on every image. -/
theorem mapM_map_eq_ok {g : α → γ} {f : γ → Except ε β} {k : α → β} (h : ∀ a, f (g a) = .ok (k a))
    (xs : List α) : (xs.map g).mapM f = .ok (xs.map k) := by
  rw [mapM_eq_ok_iff, List.forall₂_map_left_iff, List.forall₂_map_right_iff, List.forall₂_same]
  exact fun a _ => h a

/-- Functions that agree on the items of a list map it to the same. -/
theorem mapM_congr {f g : α → Except ε β} {xs : List α} (h : ∀ x ∈ xs, f x = g x) :
    xs.mapM f = xs.mapM g := by
  induction xs with
  | nil => rfl
  | cons x xs ih =>
    rw [List.forall_mem_cons] at h
    rw [List.mapM_cons, List.mapM_cons, h.1, ih h.2]

/-- If a function does not have values on a whole list, there is a first item without one. -/
theorem exists_first_error {f : α → Except ε β} {xs : List α}
    (h : ¬ ∀ x ∈ xs, ∃ y, f x = .ok y) : ∃ before x after e,
      xs = before ++ x :: after ∧ (∀ b ∈ before, ∃ y, f b = .ok y) ∧ f x = .error e := by
  induction xs with
  | nil => exact absurd (fun x hx => absurd hx List.not_mem_nil) h
  | cons x xs ih =>
    cases hx : f x with
    | error e => exact ⟨[], x, xs, e, rfl, fun b hb => absurd hb List.not_mem_nil, hx⟩
    | ok y =>
      have hrest : ¬ ∀ x ∈ xs, ∃ y, f x = .ok y := fun hall =>
        h (List.forall_mem_cons.2 ⟨⟨y, hx⟩, hall⟩)
      obtain ⟨before, x', after, e, rfl, hbefore, hx'⟩ := ih hrest
      exact ⟨x :: before, x', after, e, rfl, List.forall_mem_cons.2 ⟨⟨y, hx⟩, hbefore⟩, hx'⟩

/-- Mapping a list fails just as its first item does that has no value. -/
theorem mapM_eq_error_iff {f : α → Except ε β} {xs : List α} {e : ε} :
    xs.mapM f = .error e ↔ ∃ before x after,
      xs = before ++ x :: after ∧ (∀ b ∈ before, ∃ y, f b = .ok y) ∧ f x = .error e := by
  constructor
  · intro h
    have hnot : ¬ ∀ x ∈ xs, ∃ y, f x = .ok y := by
      intro hall
      obtain ⟨ys, hys⟩ := exists_mapM_eq_ok_iff.2 hall
      rw [hys] at h
      cases h
    obtain ⟨before, x, after, e', rfl, hbefore, hx⟩ := exists_first_error hnot
    rw [mapM_eq_error hbefore hx] at h
    cases h
    exact ⟨before, x, after, rfl, hbefore, hx⟩
  · rintro ⟨before, x, after, rfl, hbefore, hx⟩
    exact mapM_eq_error hbefore hx

/-- A function that has all the values of another has its values on a list. -/
theorem mapM_eq_ok_of_imp {f : α → Except ε β} {g : α → Except ε' β} {xs : List α} {ys : List β}
    (h : xs.mapM f = .ok ys) (hfg : ∀ x y, f x = .ok y → g x = .ok y) : xs.mapM g = .ok ys :=
  mapM_eq_ok_iff.2 ((mapM_eq_ok_iff.1 h).imp hfg)

/-- A check of every item succeeds when it accepts each of them. -/
theorem forM_eq_ok_iff {check : α → Except ε PUnit} {xs : List α} :
    xs.forM check = .ok () ↔ ∀ x ∈ xs, check x = .ok () := by
  induction xs with
  | nil => simp [pure, Except.pure]
  | cons x xs ih =>
    rw [List.forM_eq_forM, List.forM_cons, bind_eq_ok, List.forall_mem_cons, ← ih]
    exact ⟨fun ⟨_, hx, hxs⟩ => ⟨hx, hxs⟩, fun ⟨hx, hxs⟩ => ⟨(), hx, hxs⟩⟩

/-- A check of every item fails as the first item does that is not accepted. -/
theorem exists_of_forM_eq_error {check : α → Except ε PUnit} {xs : List α} {e : ε}
    (h : xs.forM check = .error e) : ∃ before x after, xs = before ++ x :: after ∧
      (∀ b ∈ before, check b = .ok ()) ∧ check x = .error e := by
  induction xs with
  | nil => cases h
  | cons x xs ih =>
    rw [List.forM_eq_forM, List.forM_cons] at h
    rcases bind_eq_error.1 h with hx | ⟨⟨⟩, hx, hxs⟩
    · exact ⟨[], x, xs, rfl, fun b hb => absurd hb List.not_mem_nil, hx⟩
    · obtain ⟨before, x', after, rfl, hbefore, hx'⟩ := ih hxs
      exact ⟨x :: before, x', after, rfl, List.forall_mem_cons.2 ⟨hx, hbefore⟩, hx'⟩

/-- What holds of pairs and of their second parts may be stated apart. -/
theorem forall₂_and_iff {R : α → β → Prop} {P : β → Prop} {xs : List α} {ys : List β} :
    List.Forall₂ (fun x y => R x y ∧ P y) xs ys ↔ List.Forall₂ R xs ys ∧ ∀ y ∈ ys, P y := by
  constructor
  · intro h
    induction h with
    | nil => exact ⟨.nil, fun y hy => absurd hy List.not_mem_nil⟩
    | cons hxy _ ih => exact ⟨.cons hxy.1 ih.1, List.forall_mem_cons.2 ⟨hxy.2, ih.2⟩⟩
  · rintro ⟨h, hys⟩
    induction h with
    | nil => exact .nil
    | cons hxy _ ih =>
      rw [List.forall_mem_cons] at hys
      exact .cons ⟨hxy, hys.1⟩ (ih hys.2)

end PolicySync.Fallible
