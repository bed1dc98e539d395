import PolicySync.Text.Numeral

/-!
# What numerals spell

A numeral is read as the number that its digits spell, whatever zeros they start with, and a plus sign
before it changes nothing. Nothing else is read as a number, and no number is read that does not fit
(`natural?_eq_some_iff`).
-/

namespace PolicySync.Text

/-- Decimal digits spell the number that they spell with the value before them. -/
theorem digitsFrom?_eq {cs : List Char} (h : ∀ c ∈ cs, c.isDigit = true) (acc : Nat) :
    digitsFrom? acc cs = some (Nat.ofDigitChars 10 cs acc) := by
  induction cs generalizing acc with
  | nil => rfl
  | cons c cs ih =>
    have hc : '0' ≤ c ∧ c ≤ '9' := by
      have hdigit := h c List.mem_cons_self
      rw [Char.isDigit, Bool.and_eq_true, decide_eq_true_eq, decide_eq_true_eq] at hdigit
      exact hdigit
    have hrest := ih (fun d hd => h d (List.mem_cons_of_mem _ hd))
      (10 * acc + (c.toNat - '0'.toNat))
    simp only [digitsFrom?, digit?, hc, and_self, if_true]
    rw [Nat.ofDigitChars_cons]
    exact hrest

/-- Nothing but decimal digits spells a number. -/
theorem isDigit_of_digitsFrom? {cs : List Char} {acc n : Nat} (h : digitsFrom? acc cs = some n) :
    ∀ c ∈ cs, c.isDigit = true := by
  induction cs generalizing acc with
  | nil => exact fun c hc => absurd hc List.not_mem_nil
  | cons c cs ih =>
    obtain ⟨v, hv, hrest⟩ := Option.bind_eq_some_iff.1 h
    rw [List.forall_mem_cons]
    refine ⟨?_, ih hrest⟩
    rw [digit?, Option.ite_none_right_eq_some] at hv
    rw [Char.isDigit, Bool.and_eq_true, decide_eq_true_eq, decide_eq_true_eq]
    exact hv.1

/-- A numeral has one digit at least, and nothing but decimal digits. -/
structure IsNumeral (s : String) : Prop where
  ne : s ≠ ""
  digits : ∀ c ∈ s.toList, c.isDigit = true

/-- The number that a numeral spells. -/
def spelledBy (s : String) : Nat := Nat.ofDigitChars 10 s.toList 0

/-- A number is written as a numeral, perhaps after a plus sign. -/
def Writes (s : String) (n : Nat) : Prop :=
  ∃ digits, (s = digits ∨ s = "+" ++ digits) ∧ IsNumeral digits ∧ spelledBy digits = n

/-- The digits that are read are those of a numeral. -/
theorem digits?_eq_some_iff {s : String} {n : Nat} :
    digits? s.toList = some n ↔ IsNumeral s ∧ spelledBy s = n := by
  have hempty : s.toList.isEmpty = true ↔ s = "" := by simp
  rw [digits?]
  split
  · next h =>
    constructor
    · intro hn
      cases hn
    · exact fun hs => absurd (hempty.1 h) hs.1.ne
  · next h =>
    have hne : s ≠ "" := fun hs => h (hempty.2 hs)
    constructor
    · intro hn
      have hdigits := isDigit_of_digitsFrom? hn
      rw [digitsFrom?_eq hdigits, Option.some.injEq] at hn
      exact ⟨⟨hne, hdigits⟩, hn⟩
    · rintro ⟨hs, rfl⟩
      rw [digitsFrom?_eq hs.digits, spelledBy]

/-- A sign is no digit. -/
theorem IsNumeral.head?_ne_plus {s : String} (h : IsNumeral s) : s.toList.head? ≠ some '+' := by
  intro hplus
  have hdigit := h.digits '+' (List.mem_of_mem_head? hplus)
  revert hdigit
  decide

/-- A sign in front is one character more. -/
theorem toList_plus_append (s : String) : ("+" ++ s).toList = '+' :: s.toList := by
  simp

/-- The numbers below a bound are read from the texts that write them. -/
theorem natural?_eq_some_iff {bound n : Nat} {s : String} :
    natural? bound s = some n ↔ Writes s n ∧ n < bound := by
  rw [natural?, Option.filter_eq_some_iff, decide_eq_true_eq]
  refine and_congr_left fun _ => ?_
  by_cases hsign : s.toList.head? = some '+'
  · -- Only what comes after the sign may be a numeral.
    obtain ⟨rest, hrest⟩ := List.head?_eq_some_iff.1 hsign
    obtain rfl : s = "+" ++ String.ofList rest := by
      rw [← String.toList_inj, hrest, toList_plus_append, String.toList_ofList]
    have hdigits := digits?_eq_some_iff (s := String.ofList rest) (n := n)
    rw [String.toList_ofList] at hdigits
    rw [if_pos hsign, hrest, List.tail_cons, hdigits]
    constructor
    · exact fun h => ⟨_, .inr rfl, h⟩
    · rintro ⟨digits, heq | heq, hnumeral, hspelled⟩
      · exact absurd (heq ▸ hsign) hnumeral.head?_ne_plus
      · rw [← String.toList_inj, toList_plus_append, toList_plus_append, List.cons_inj_right,
          String.toList_inj] at heq
        rw [heq]
        exact ⟨hnumeral, hspelled⟩
  · rw [if_neg hsign, digits?_eq_some_iff]
    constructor
    · exact fun h => ⟨_, .inl rfl, h⟩
    · rintro ⟨digits, heq | heq, h⟩
      · rw [heq]
        exact h
      · rw [heq, toList_plus_append] at hsign
        exact absurd rfl hsign

/-- A text writes one number at most. -/
theorem Writes.unique {s : String} {m n : Nat} (hm : Writes s m) (hn : Writes s n) : m = n := by
  have hread := natural?_eq_some_iff.2 ⟨hm, Nat.lt_succ_of_le (Nat.le_max_left m n)⟩
  rw [natural?_eq_some_iff.2 ⟨hn, Nat.lt_succ_of_le (Nat.le_max_right m n)⟩] at hread
  exact (Option.some.inj hread).symm

/-- A numeral writes the number that it spells. -/
theorem IsNumeral.writes {s : String} (h : IsNumeral s) : Writes s (spelledBy s) :=
  ⟨s, .inl rfl, h, rfl⟩

/-- A numeral is read as the number that it spells, when that is below the bound. -/
theorem IsNumeral.natural? {s : String} (h : IsNumeral s) (bound : Nat) :
    natural? bound s = if spelledBy s < bound then some (spelledBy s) else none := by
  split
  · next hlt => exact natural?_eq_some_iff.2 ⟨h.writes, hlt⟩
  · next hge =>
    rw [Option.eq_none_iff_forall_ne_some]
    intro n hn
    obtain ⟨⟨digits, hdigits, hnumeral, rfl⟩, hlt⟩ := natural?_eq_some_iff.1 hn
    rcases hdigits with rfl | rfl
    · exact hge hlt
    · exact h.head?_ne_plus (by rw [toList_plus_append]; rfl)

/-- Numbers are written as numerals. -/
theorem isNumeral_toString (n : Nat) : IsNumeral (toString n) where
  ne := by
    rw [ne_eq, ← String.toList_inj]
    exact Nat.toList_repr ▸ Nat.toDigits_ne_nil
  digits c hc := by
    have hlist : (toString n).toList = Nat.toDigits 10 n := Nat.toList_repr
    exact Nat.isDigit_of_mem_toDigits (by decide) (by decide) (hlist ▸ hc)

/-- These spell the number. -/
theorem spelledBy_toString (n : Nat) : spelledBy (toString n) = n := by
  have hlist : (toString n).toList = Nat.toDigits 10 n := Nat.toList_repr
  rw [spelledBy, hlist, Nat.ofDigitChars_ten_toDigits]

end PolicySync.Text
