import Mathlib.Algebra.Order.Floor.Div
import PolicySync.Memory.Offset
import PolicySync.Proofs.Page
import PolicySync.Proofs.Text.Numeral

/-!
# Tokens and pages in memory

The token of a page is the decimal numeral of an offset, and reading it gives the offset back as long
as it fits 64 bits (`offset_toString`). `TokensFit` says so of all the tokens that lead through a
list. Then the pages that they lead to make up the list, and there are as many as it fills
(`exists_pageWalk`).
-/

namespace PolicySync

namespace Memory

/-- Offsets are below this number. -/
def offsetBound : Nat := Nat.pow 2 64

theorem offset_none : offset none = .ok 0 := rfl

/-- A numeral is no empty text. -/
theorem nextToken_of_isNumeral {t : String} (h : Text.IsNumeral t) : nextToken (some t) = some t :=
  nextToken_eq_some_iff.2 ⟨rfl, h.ne⟩

/-- A number as a token names a page. -/
theorem nextToken_toString (n : Nat) : nextToken (some (toString n)) = some (toString n) :=
  nextToken_of_isNumeral (Text.isNumeral_toString n)

/-- A numeral stands for the offset that it spells, as long as that fits. -/
theorem offset_of_isNumeral {t : String} (h : Text.IsNumeral t)
    (hfit : Text.spelledBy t < offsetBound) : offset (some t) = .ok (Text.spelledBy t) := by
  have hread : Text.natural? (Nat.pow 2 64) t = some (Text.spelledBy t) :=
    (h.natural? _).trans (if_pos hfit)
  rw [offset, nextToken_of_isNumeral h]
  simp only [hread]

/-- The token of an offset stands for it, as long as it fits. -/
theorem offset_toString {n : Nat} (h : n < offsetBound) : offset (some (toString n)) = .ok n := by
  have hfit := offset_of_isNumeral (Text.isNumeral_toString n)
  rw [Text.spelledBy_toString] at hfit
  exact hfit h

/-- The token of an offset that does not fit stands for nothing. -/
theorem offset_toString_of_le {n : Nat} (h : offsetBound ≤ n) :
    ∃ detail, offset (some (toString n)) = .error detail := by
  have hread : Text.natural? (Nat.pow 2 64) (toString n) = none := by
    rw [(Text.isNumeral_toString n).natural?, Text.spelledBy_toString]
    exact if_neg (Nat.not_lt.2 h)
  rw [offset, nextToken_toString]
  simp only [hread]
  exact ⟨_, rfl⟩

/-- The tokens that lead from an offset through the rest of a list of some length stand for
offsets. -/
def TokensFit (start length limit : Nat) : Prop :=
  ∀ n, start + (n + 1) * max limit 1 < length → start + (n + 1) * max limit 1 < offsetBound

/-- A list with at most as many items as there are offsets can be read to its end. -/
theorem tokensFit_of_length_le {length : Nat} (h : length ≤ offsetBound) (start limit : Nat) :
    TokensFit start length limit :=
  fun _ hlt => Nat.lt_of_lt_of_le hlt h

/-- The last page has no token that could be too large. -/
theorem tokensFit_of_end {start length limit : Nat} (h : length ≤ start + max limit 1) :
    TokensFit start length limit := by
  intro n hlt
  have hstep : max limit 1 ≤ (n + 1) * max limit 1 := Nat.le_mul_of_pos_left _ (Nat.succ_pos n)
  omega

/-- Before the end, the next token has to fit and so have those after it. -/
theorem tokensFit_iff {start length limit : Nat} (h : start + max limit 1 < length) :
    TokensFit start length limit ↔
      start + max limit 1 < offsetBound ∧ TokensFit (start + max limit 1) length limit := by
  -- All later tokens are those of a listing that starts one page further on.
  have hshift : ∀ n, start + (n + 1 + 1) * max limit 1
      = start + max limit 1 + (n + 1) * max limit 1 := by
    intro n
    rw [Nat.add_mul (n + 1) 1, Nat.one_mul]
    omega
  constructor
  · intro hfit
    refine ⟨by simpa using hfit 0 (by simpa using h), fun n hlt => ?_⟩
    rw [← hshift] at hlt ⊢
    exact hfit (n + 1) hlt
  · rintro ⟨hfirst, hrest⟩ n hlt
    cases n with
    | zero => simpa using hfirst
    | succ n =>
      rw [hshift] at hlt ⊢
      exact hrest n hlt

/-- The page at an offset and the rest after it make up the list from the offset on. -/
theorem pageAt_items_append (items : List α) (n limit : Nat) :
    (pageAt items n limit).items ++ items.drop (n + max limit 1) = items.drop n := by
  rw [← List.drop_drop]
  exact List.take_append_drop _ _

/-- A page before the end names the one that follows. -/
theorem pageAt_next_of_lt {items : List α} {n limit : Nat} (h : n + max limit 1 < items.length) :
    (pageAt items n limit).next = some (toString (n + max limit 1)) :=
  if_pos h

/-- One at the end names none. -/
theorem pageAt_next_of_le {items : List α} {n limit : Nat} (h : items.length ≤ n + max limit 1) :
    (pageAt items n limit).next = none :=
  if_neg (Nat.not_lt.2 h)

/-- A page that comes up to the end of the list has the rest of it. -/
theorem pageAt_items_of_le {items : List α} {n limit : Nat} (h : items.length ≤ n + max limit 1) :
    (pageAt items n limit).items = items.drop n := by
  have happend := pageAt_items_append items n limit
  rw [List.drop_of_length_le h, List.append_nil] at happend
  exact happend

/-- A page ends the list, or names the token of the offset where it ends. -/
theorem pageAt_cases (items : List α) (n limit : Nat) :
    nextToken (pageAt items n limit).next = none ∧ (pageAt items n limit).items = items.drop n ∨
      ∃ t, nextToken (pageAt items n limit).next = some t ∧
        ∀ n', offset (some t) = .ok n' → n' = n + max limit 1 := by
  rcases Nat.lt_or_ge (n + max limit 1) items.length with hmore | hend
  · refine .inr ⟨toString (n + max limit 1), ?_, fun n' hn' => ?_⟩
    · rw [pageAt_next_of_lt hmore, nextToken_toString]
    · rcases Nat.lt_or_ge (n + max limit 1) offsetBound with hfit | hfit
      · rw [offset_toString hfit] at hn'
        exact (Except.ok.inj hn').symm
      · obtain ⟨detail, hdetail⟩ := offset_toString_of_le hfit
        rw [hdetail] at hn'
        cases hn'
  · exact .inl ⟨by rw [pageAt_next_of_le hend]; rfl, pageAt_items_of_le hend⟩

/-- The items before a page and those on it come before where it ends. -/
theorem take_append_pageAt (items : List α) (n limit : Nat) :
    items.take n ++ (pageAt items n limit).items = items.take (n + max limit 1) :=
  List.take_add.symm

/-- What is left of a list fills one page less after a page. -/
theorem ceilDiv_sub {length n step : Nat} (hstep : 0 < step) (h : n + step < length) :
    (length - n) ⌈/⌉ step = (length - (n + step)) ⌈/⌉ step + 1 := by
  rw [Nat.ceilDiv_eq_add_pred_div, Nat.ceilDiv_eq_add_pred_div, ← Nat.add_div_right _ hstep]
  congr 1
  omega

/-- Walking through the pages of a list from an offset on brings what is left of it, on as many pages as
that fills, but on one at least. -/
theorem exists_pageWalk {ε : Type} {W : Type u} {ask : Option String → W → Except ε (Page α) × W}
    {Keeps : W → Prop} {items : List α} {limit : Nat}
    (hask : ∀ token n w, offset token = .ok n → Keeps w →
      ∃ w', Keeps w' ∧ ask token w = (.ok (pageAt items n limit), w'))
    {token : Option String} {n : Nat} {w : W} (htoken : offset token = .ok n) (hw : Keeps w)
    (hfits : TokensFit n items.length limit) :
    ∃ pages w', PageWalk ask token w pages (.ok ()) w' ∧ Keeps w' ∧
      pages.length = max 1 ((items.length - n) ⌈/⌉ max limit 1) ∧
      pages.flatMap (·.items) = items.drop n := by
  -- The induction is on how much of the list is left, which every page makes less.
  induction hleft : items.length - n using Nat.strongRecOn generalizing token n w with
  | ind left ih =>
    subst hleft
    obtain ⟨w₁, hw₁, hpage⟩ := hask token n w htoken hw
    have hstep : 0 < max limit 1 := by omega
    rcases Nat.lt_or_ge (n + max limit 1) items.length with hmore | hend
    · obtain ⟨hfit, hfits'⟩ := (tokensFit_iff hmore).1 hfits
      have hless : items.length - (n + max limit 1) < items.length - n := by omega
      obtain ⟨pages, w', hwalk, hw', hlength, hitems⟩ :=
        ih _ hless (offset_toString hfit) hw₁ hfits' rfl
      have hnext : nextToken (pageAt items n limit).next = some (toString (n + max limit 1)) := by
        rw [pageAt_next_of_lt hmore, nextToken_toString]
      refine ⟨_, w', .more hpage hnext hwalk, hw', ?_, ?_⟩
      · rw [List.length_cons, hlength, ceilDiv_sub hstep hmore]
        have hfilled : 0 < (items.length - (n + max limit 1)) ⌈/⌉ max limit 1 := by
          rw [Nat.ceilDiv_eq_add_pred_div]
          exact Nat.div_pos (by omega) hstep
        omega
      · rw [List.flatMap_cons, hitems, pageAt_items_append]
    · have hnext : nextToken (pageAt items n limit).next = none := by
        rw [pageAt_next_of_le hend]
        rfl
      have hfilled : (items.length - n) ⌈/⌉ max limit 1 ≤ 1 := by
        rw [ceilDiv_le_iff_le_mul hstep, Nat.mul_one]
        omega
      refine ⟨_, w₁, .last hpage hnext, hw₁, (Nat.max_eq_left hfilled).symm, ?_⟩
      rw [List.flatMap_singleton, pageAt_items_of_le hend]

/-- A source hands out a list in pages. Whoever follows their tokens from the start gets the whole list in
order, on as many pages as it fills, but on one at least; its length has to fit 64 bits as all lengths
do. A numeral that fits 64 bits gets a page as well, if only an empty one past the end. -/
structure HandsOut {ε : Type} {W : Type u} (ask : Option String → W → Except ε (Page α) × W)
    (items : List α) (limit : Nat) (w : W) : Prop where
  walk : items.length ≤ offsetBound → ∃ pages w', PageWalk ask none w pages (.ok ()) w' ∧
    pages.length = max 1 (items.length ⌈/⌉ max limit 1) ∧ pages.flatMap (·.items) = items
  numeral : ∀ t, Text.IsNumeral t → Text.spelledBy t < offsetBound →
    ∃ page, (ask (some t) w).1 = .ok page ∧
      page.items = (items.drop (Text.spelledBy t)).take (max limit 1)

/-- A source that has a page for every offset hands out the list. -/
theorem handsOut_of_pageAt {ε : Type} {W : Type u} {ask : Option String → W → Except ε (Page α) × W}
    (Keeps : W → Prop) {items : List α} {limit : Nat}
    (hask : ∀ token n w, offset token = .ok n → Keeps w →
      ∃ w', Keeps w' ∧ ask token w = (.ok (pageAt items n limit), w'))
    {w : W} (hw : Keeps w) : HandsOut ask items limit w where
  walk hlength := by
    obtain ⟨pages, w', hwalk, -, hpages, hitems⟩ :=
      exists_pageWalk hask offset_none hw (tokensFit_of_length_le hlength 0 limit)
    exact ⟨pages, w', hwalk, hpages, hitems⟩
  numeral t ht hfit := by
    obtain ⟨w', -, hpage⟩ := hask _ _ w (offset_of_isNumeral ht hfit) hw
    exact ⟨_, congrArg (·.1) hpage, rfl⟩

/-- A page has items of the list. -/
theorem mem_of_mem_pageAt {items : List α} {n limit : Nat} {a : α}
    (h : a ∈ (pageAt items n limit).items) : a ∈ items :=
  List.mem_of_mem_drop (List.mem_of_mem_take h)

end Memory

end PolicySync
