/-!
# Cutting text at a separator

`cutFirst` and `cutLast` cut a text at the first and at the last occurrence of a character and
leave the character out; `pieces` cuts at every occurrence. Gluing the parts back with the
separator gives the text again (`eq_of_cutFirst`, `eq_of_cutLast`), and what was glued is cut there
(`cutFirst_append`, `cutLast_append`). What is glued in one way may be glued in another
(`glued_eq_iff`).
-/

namespace PolicySync.Text

/-- The parts before and after the first `sep`. -/
def cutFirst (sep : Char) : List Char → Option (List Char × List Char)
  | [] => none
  | c :: cs => if c = sep then some ([], cs) else (cutFirst sep cs).map fun p => (c :: p.1, p.2)

/-- The parts before and after the last `sep`. -/
def cutLast (sep : Char) : List Char → Option (List Char × List Char)
  | [] => none
  | c :: cs =>
    match cutLast sep cs with
    | some p => some (c :: p.1, p.2)
    | none => if c = sep then some ([], cs) else none

/-- The parts between the occurrences of `sep`; a text without it is its only part. -/
def pieces (sep : Char) : List Char → List (List Char)
  | [] => [[]]
  | c :: cs =>
    if c = sep then [] :: pieces sep cs
    else
      match pieces sep cs with
      | [] => [[c]]
      | p :: ps => (c :: p) :: ps

/-- The two parts around the first separator make up the text. -/
theorem eq_of_cutFirst {sep : Char} {cs a b : List Char} (h : cutFirst sep cs = some (a, b)) :
    cs = a ++ sep :: b := by
  induction cs generalizing a b with
  | nil => simp [cutFirst] at h
  | cons c cs ih =>
    by_cases hc : c = sep
    · simp only [cutFirst, hc, if_true, Option.some.injEq, Prod.mk.injEq] at h
      simp [← h.1, ← h.2, hc]
    · simp only [cutFirst, hc, if_false, Option.map_eq_some_iff] at h
      obtain ⟨⟨a', b'⟩, hab, h⟩ := h
      simp only [Prod.mk.injEq] at h
      simp [← h.1, ← h.2, ih hab]

/-- The part before the first separator does not hold it. -/
theorem not_mem_of_cutFirst {sep : Char} {cs a b : List Char}
    (h : cutFirst sep cs = some (a, b)) : sep ∉ a := by
  induction cs generalizing a b with
  | nil => simp [cutFirst] at h
  | cons c cs ih =>
    by_cases hc : c = sep
    · simp only [cutFirst, hc, if_true, Option.some.injEq, Prod.mk.injEq] at h
      simp [← h.1]
    · simp only [cutFirst, hc, if_false, Option.map_eq_some_iff] at h
      obtain ⟨⟨a', b'⟩, hab, h⟩ := h
      simp only [Prod.mk.injEq] at h
      simp [← h.1, ih hab, Ne.symm hc]

/-- A text is cut after a part without the separator. -/
theorem cutFirst_append {sep : Char} {a : List Char} (h : sep ∉ a) (b : List Char) :
    cutFirst sep (a ++ sep :: b) = some (a, b) := by
  induction a with
  | nil => simp [cutFirst]
  | cons c a ih =>
    rw [List.mem_cons, not_or] at h
    rw [List.cons_append, cutFirst, if_neg (Ne.symm h.1), ih h.2]
    rfl

/-- The two parts around the last separator make up the text. -/
theorem eq_of_cutLast {sep : Char} {cs a b : List Char} (h : cutLast sep cs = some (a, b)) :
    cs = a ++ sep :: b := by
  induction cs generalizing a b with
  | nil => simp [cutLast] at h
  | cons c cs ih =>
    simp only [cutLast] at h
    split at h
    · next p hp =>
      simp only [Option.some.injEq, Prod.mk.injEq] at h
      simp [← h.1, ← h.2, ih hp]
    · split at h
      · next hc =>
        simp only [Option.some.injEq, Prod.mk.injEq] at h
        simp [← h.1, ← h.2, hc]
      · simp at h

/-- A text without the separator is not cut. -/
theorem cutLast_eq_none {sep : Char} {cs : List Char} : cutLast sep cs = none ↔ sep ∉ cs := by
  induction cs with
  | nil => simp [cutLast]
  | cons c cs ih =>
    simp only [cutLast, List.mem_cons, not_or]
    split
    · next p hp => simp [← ih, hp]
    · next hn => by_cases hc : c = sep <;> simp [hc, ← ih, hn, Ne.symm]

/-- A text is cut before a part without the separator. -/
theorem cutLast_append {sep : Char} {b : List Char} (h : sep ∉ b) (a : List Char) :
    cutLast sep (a ++ sep :: b) = some (a, b) := by
  induction a with
  | nil => simp [cutLast, cutLast_eq_none.2 h]
  | cons c a ih =>
    rw [List.cons_append, cutLast, ih]

/-- The part after the last separator does not hold it. -/
theorem not_mem_of_cutLast {sep : Char} {cs a b : List Char}
    (h : cutLast sep cs = some (a, b)) : sep ∉ b := by
  induction cs generalizing a b with
  | nil => simp [cutLast] at h
  | cons c cs ih =>
    simp only [cutLast] at h
    split at h
    · next p hp =>
      simp only [Option.some.injEq, Prod.mk.injEq] at h
      exact h.2 ▸ ih hp
    · next hn =>
      split at h
      · simp only [Option.some.injEq, Prod.mk.injEq] at h
        exact h.2 ▸ cutLast_eq_none.1 hn
      · simp at h

/-- Texts glued with a separator are equal when their parts are, or when a separator within the back
part of one is where the other is glued. -/
theorem glued_eq_iff {sep : Char} {a b c d : List Char} : a ++ sep :: b = c ++ sep :: d ↔
    a = c ∧ b = d ∨ (∃ x, c = a ++ sep :: x ∧ b = x ++ sep :: d) ∨
      ∃ x, a = c ++ sep :: x ∧ d = x ++ sep :: b := by
  constructor
  · intro h
    rcases List.append_eq_append_iff.1 h with ⟨x, hc, hb⟩ | ⟨x, ha, hd⟩
    · cases x with
      | nil =>
        rw [List.append_nil] at hc
        exact .inl ⟨hc.symm, List.tail_eq_of_cons_eq hb⟩
      | cons y x =>
        obtain ⟨rfl, rfl⟩ := List.cons_eq_cons.1 hb
        exact .inr (.inl ⟨x, hc, rfl⟩)
    · cases x with
      | nil =>
        rw [List.append_nil] at ha
        exact .inl ⟨ha, (List.tail_eq_of_cons_eq hd).symm⟩
      | cons y x =>
        obtain ⟨rfl, rfl⟩ := List.cons_eq_cons.1 hd
        exact .inr (.inr ⟨x, ha, rfl⟩)
  · rintro (⟨rfl, rfl⟩ | ⟨x, rfl, rfl⟩ | ⟨x, rfl, rfl⟩)
    · rfl
    · simp
    · simp

end PolicySync.Text
