import Mathlib.Data.List.Basic
import PolicySync.Config.Source

/-!
# Sources in the order of their precedence

`StablyRanked` says what it is to put sources in order: lower precedences come first, and sources of
one precedence stay in the order they are given in. There is just one such order
(`stablyRanked_iff`), so the order in which sources are given matters only among those of one
precedence (`byPrecedence_congr`).
-/

namespace PolicySync

variable {σ : Type u} {precedence : σ → Nat} {sources others ranked : List σ}

/-- The lists hold the same sources of each precedence, in the same order. -/
def SameByPrecedence (precedence : σ → Nat) (others sources : List σ) : Prop :=
  ∀ n, others.filter (precedence · = n) = sources.filter (precedence · = n)

/-- Neighbours of different precedence may change places. -/
theorem sameByPrecedence_swap {a b : σ} (hab : precedence a ≠ precedence b)
    (before after : List σ) :
    SameByPrecedence precedence (before ++ a :: b :: after) (before ++ b :: a :: after) := by
  intro n
  rw [List.filter_append, List.filter_append]
  congr 1
  by_cases ha : precedence a = n
  · have hb : precedence b ≠ n := fun hb => hab (ha.trans hb.symm)
    simp [ha, hb]
  · simp [List.filter_cons, ha]

namespace SameByPrecedence

/-- The relation does not tell the two lists apart. -/
theorem symm (h : SameByPrecedence precedence others sources) :
    SameByPrecedence precedence sources others :=
  fun n => (h n).symm

/-- Two rearrangements are one. -/
theorem trans (h : SameByPrecedence precedence ranked others)
    (h' : SameByPrecedence precedence others sources) : SameByPrecedence precedence ranked sources :=
  fun n => (h n).trans (h' n)

/-- A rearrangement has the same sources. -/
theorem mem_iff (h : SameByPrecedence precedence others sources) {a : σ} :
    a ∈ others ↔ a ∈ sources := by
  have hmem : ∀ {xs : List σ}, a ∈ xs ↔ a ∈ xs.filter (precedence · = precedence a) := by
    simp
  rw [hmem, h, ← hmem]

theorem eq_nil (h : SameByPrecedence precedence others []) : others = [] :=
  List.eq_nil_iff_forall_not_mem.2 fun _ ha => absurd (h.mem_iff.1 ha) List.not_mem_nil

/-- Two lists in order that hold the same of each precedence are the same. -/
theorem eq_of_sorted (h : SameByPrecedence precedence others sources)
    (hothers : others.Pairwise fun a b => precedence a ≤ precedence b)
    (hsources : sources.Pairwise fun a b => precedence a ≤ precedence b) : others = sources := by
  induction others generalizing sources with
  | nil => exact h.symm.eq_nil.symm
  | cons a others ih =>
    cases sources with
    | nil => cases h.eq_nil
    | cons b sources =>
      obtain ⟨ha, hothersTail⟩ := List.pairwise_cons.1 hothers
      obtain ⟨hb, hsourcesTail⟩ := List.pairwise_cons.1 hsources
      -- Both heads have the lowest precedence, so they are the first of those that have it.
      have hle : ∀ x ∈ a :: others, precedence a ≤ precedence x :=
        List.forall_mem_cons.2 ⟨Nat.le_refl _, ha⟩
      have hge : ∀ x ∈ b :: sources, precedence b ≤ precedence x :=
        List.forall_mem_cons.2 ⟨Nat.le_refl _, hb⟩
      have hab : precedence a = precedence b :=
        Nat.le_antisymm (hle b (h.mem_iff.2 List.mem_cons_self))
          (hge a (h.mem_iff.1 List.mem_cons_self))
      have hfirst := h (precedence b)
      simp only [List.filter_cons, hab, decide_true, if_true, List.cons.injEq] at hfirst
      obtain ⟨rfl, hsame⟩ := hfirst
      have hrest : SameByPrecedence precedence others sources := by
        intro n
        by_cases hn : precedence a = n
        · exact hn ▸ hsame
        · simpa [List.filter_cons, hn] using h n
      rw [ih hrest hothersTail hsourcesTail]

end SameByPrecedence

/-- Sources are put in the order of their precedence, and equal ones are left in the order that they
are given in. -/
structure StablyRanked (precedence : σ → Nat) (sources ranked : List σ) : Prop where
  sorted : ranked.Pairwise fun a b => precedence a ≤ precedence b
  stable : SameByPrecedence precedence ranked sources

/-- Ranking loses no source and makes up none. -/
theorem perm_byPrecedence (precedence : σ → Nat) (sources : List σ) :
    (byPrecedence precedence sources).Perm sources :=
  List.mergeSort_perm _ _

/-- It is the stable order. -/
theorem stablyRanked_byPrecedence (precedence : σ → Nat) (sources : List σ) :
    StablyRanked precedence sources (byPrecedence precedence sources) := by
  have htrans : ∀ a b c : σ, decide (precedence a ≤ precedence b) = true →
      decide (precedence b ≤ precedence c) = true → decide (precedence a ≤ precedence c) = true := by
    intro a b c hab hbc
    exact decide_eq_true (Nat.le_trans (of_decide_eq_true hab) (of_decide_eq_true hbc))
  have htotal : ∀ a b : σ,
      (decide (precedence a ≤ precedence b) || decide (precedence b ≤ precedence a)) = true := by
    intro a b
    simpa using Nat.le_total (precedence a) (precedence b)
  refine ⟨(List.pairwise_mergeSort htrans htotal sources).imp of_decide_eq_true, fun n => ?_⟩
  -- The sources of one precedence are in order as they are, so sorting leaves them a sublist.
  have hequal : (sources.filter (precedence · = n)).Pairwise
      fun a b => decide (precedence a ≤ precedence b) = true := by
    apply List.pairwise_of_forall_mem_list
    intro a ha b hb
    rw [List.mem_filter, decide_eq_true_eq] at ha hb
    simp [ha.2, hb.2]
  have hsublist := (List.sublist_mergeSort htrans htotal hequal List.filter_sublist).filter
    (precedence · = n)
  simp only [List.filter_filter, Bool.and_self] at hsublist
  have hlength := ((perm_byPrecedence precedence sources).filter (precedence · = n)).length_eq
  exact (hsublist.eq_of_length hlength.symm).symm

/-- There is just one way to put sources in order. -/
theorem stablyRanked_iff :
    StablyRanked precedence sources ranked ↔ ranked = byPrecedence precedence sources := by
  have hranked := stablyRanked_byPrecedence precedence sources
  constructor
  · intro h
    exact (h.stable.trans hranked.stable.symm).eq_of_sorted h.sorted hranked.sorted
  · rintro rfl
    exact hranked

/-- Only sources of one precedence have to keep their order. -/
theorem byPrecedence_congr (h : SameByPrecedence precedence others sources) :
    byPrecedence precedence others = byPrecedence precedence sources := by
  have hothers := stablyRanked_byPrecedence precedence others
  exact stablyRanked_iff.1 ⟨hothers.sorted, hothers.stable.trans h⟩

end PolicySync
