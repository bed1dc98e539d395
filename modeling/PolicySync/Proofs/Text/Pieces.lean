import Mathlib.Data.List.DropRight
import PolicySync.Text.Blank
import PolicySync.Text.Split

/-!
# Pieces of a text

Cutting a text at every separator gives the one list of texts without separators that the text is glued
from (`pieces_eq_iff`), and trimming it gives what is left between the blanks at its ends
(`trim_eq_iff`).
-/

namespace PolicySync.Text

/-- A text has a piece at least. -/
theorem pieces_ne_nil (sep : Char) (cs : List Char) : pieces sep cs ≠ [] := by
  cases cs with
  | nil => exact List.cons_ne_nil _ _
  | cons c cs =>
    rw [pieces]
    split
    · exact List.cons_ne_nil _ _
    · split <;> exact List.cons_ne_nil _ _

/-- The pieces are those between separators. -/
theorem pieces_eq_splitOn (sep : Char) (cs : List Char) : pieces sep cs = cs.splitOn sep := by
  induction cs with
  | nil => rfl
  | cons c cs ih =>
    rw [List.splitOn_eq_splitOnP, List.splitOnP_cons_eq_if_modifyHead, ← List.splitOn_eq_splitOnP, ← ih,
      pieces]
    by_cases hc : c = sep
    · simp [hc]
    · simp only [hc, if_false, beq_iff_eq]
      obtain ⟨p, ps, hps⟩ := List.exists_cons_of_ne_nil (pieces_ne_nil sep cs)
      rw [hps]
      rfl

/-- A piece does not hold the separator. -/
theorem not_mem_of_mem_pieces {sep : Char} {cs p : List Char} (h : p ∈ pieces sep cs) : sep ∉ p := by
  induction cs generalizing p with
  | nil =>
    rw [pieces, List.mem_singleton] at h
    exact h ▸ List.not_mem_nil
  | cons c cs ih =>
    rw [pieces] at h
    -- A separator begins a new piece, and any other character goes into the first one.
    split at h
    · rcases List.mem_cons.1 h with rfl | h
      · exact List.not_mem_nil
      · exact ih h
    · next hc =>
      split at h
      · next hnil => exact absurd hnil (pieces_ne_nil sep cs)
      · next first ps hps =>
        rcases List.mem_cons.1 h with rfl | h
        · rw [List.mem_cons, not_or]
          exact ⟨Ne.symm hc, ih (hps ▸ List.mem_cons_self)⟩
        · exact ih (hps ▸ List.mem_cons_of_mem _ h)

/-- There is just one list of texts without separators that a text is glued from. -/
theorem pieces_eq_iff {sep : Char} {cs : List Char} {ps : List (List Char)} :
    pieces sep cs = ps ↔ ps ≠ [] ∧ [sep].intercalate ps = cs ∧ ∀ p ∈ ps, sep ∉ p := by
  constructor
  · rintro rfl
    refine ⟨pieces_ne_nil sep cs, ?_, fun p => not_mem_of_mem_pieces⟩
    rw [pieces_eq_splitOn, List.intercalate_splitOn]
  · rintro ⟨hne, rfl, hps⟩
    rw [pieces_eq_splitOn, List.splitOn_intercalate sep hps hne]

/-- A text is another one with blanks around it, which has none at its own ends. -/
structure Encloses (cs core : List Char) : Prop where
  between : ∃ front back, cs = front ++ core ++ back ∧ ∀ c ∈ front ++ back, isBlank c = true
  head : ∀ c ∈ core.head?, isBlank c = false
  last : ∀ c ∈ core.getLast?, isBlank c = false

/-- Without a blank at the start none is dropped there. -/
theorem dropWhile_isBlank_of_head {cs : List Char} (h : ∀ c ∈ cs.head?, isBlank c = false) :
    cs.dropWhile isBlank = cs := by
  cases cs with
  | nil => rfl
  | cons c cs => exact List.dropWhile_cons_of_neg (by simp [h c rfl])

/-- What is left begins without a blank. -/
theorem head?_dropWhile_isBlank (cs : List Char) :
    ∀ c ∈ (cs.dropWhile isBlank).head?, isBlank c = false := by
  intro c hc
  have hhead := List.head?_dropWhile_not isBlank cs
  rw [Option.mem_def.1 hc] at hhead
  exact hhead

/-- The end is trimmed as the start of the reversed text is. -/
theorem trim_eq (cs : List Char) : trim cs = (cs.dropWhile isBlank).rdropWhile isBlank := rfl

/-- To trim takes blanks off both ends and nothing else. -/
theorem encloses_trim (cs : List Char) : Encloses cs (trim cs) := by
  have hback : (cs.dropWhile isBlank).rdropWhile isBlank ++ (cs.dropWhile isBlank).rtakeWhile isBlank =
      cs.dropWhile isBlank := List.rdropWhile_append_rtakeWhile ..
  refine ⟨⟨cs.takeWhile isBlank, (cs.dropWhile isBlank).rtakeWhile isBlank, ?_, ?_⟩, ?_, ?_⟩
  · rw [trim_eq, List.append_assoc, hback, List.takeWhile_append_dropWhile]
  · rw [List.forall_mem_append]
    exact ⟨fun c => List.mem_takeWhile_imp, fun c => List.mem_rtakeWhile_imp⟩
  · intro c hc
    refine head?_dropWhile_isBlank cs c ?_
    rw [← hback]
    exact List.mem_head?_append_of_mem_head? hc
  · intro c hc
    rw [trim, List.getLast?_reverse] at hc
    exact head?_dropWhile_isBlank _ c hc

/-- What is between the blanks at the ends of a text is the trimmed text. -/
theorem trim_eq_iff {cs core : List Char} : trim cs = core ↔ Encloses cs core := by
  constructor
  · rintro rfl
    exact encloses_trim cs
  · rintro ⟨⟨front, back, rfl, hblank⟩, hhead, hlast⟩
    rw [List.forall_mem_append] at hblank
    have hfront : (front ++ core ++ back).dropWhile isBlank = (core ++ back).dropWhile isBlank := by
      rw [List.append_assoc, List.dropWhile_append_of_pos hblank.1]
    have hend : (back.reverse ++ core.reverse).dropWhile isBlank = core.reverse := by
      rw [List.dropWhile_append_of_pos fun c hc => hblank.2 c (List.mem_reverse.1 hc)]
      exact dropWhile_isBlank_of_head (by rwa [List.head?_reverse])
    cases core with
    | nil =>
      rw [trim, hfront, List.nil_append, ← List.append_nil back,
        List.dropWhile_append_of_pos hblank.2]
      rfl
    | cons c core =>
      have hcore : (c :: core ++ back).dropWhile isBlank = c :: core ++ back :=
        dropWhile_isBlank_of_head (by simpa using hhead)
      rw [trim, hfront, hcore, List.reverse_append, hend, List.reverse_reverse]

end PolicySync.Text
