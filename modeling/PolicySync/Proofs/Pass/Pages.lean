import PolicySync.Pass.Call
import PolicySync.Proofs.Memory.Paging
import PolicySync.Proofs.Script

/-!
# Parts of a pass that read

`Pass.Reads` says which results a part of a pass can end well with, in worlds of which it keeps a
property. A part that follows pages reads a list from the first item to the last: when the answers
are the pages of a list that does not change, the outcome is that of taking the items in one by one
(`Lists.reads`), whatever the size of a page.
-/

namespace PolicySync.Pass

open Script (Ends)

variable {W : Type u} {answer : (q : Request) → W → q.Answer × W} {α β σ ι : Type}

/-- A pass of two parts ends well when the first part ends well and then the second. -/
theorem ends_andThen {p : Pass α} {f : α → Pass β} {w w' : W} {b : β} :
    Ends answer (p.andThen f) w (.ok b) w' ↔
      ∃ a w₁, Ends answer p w (.ok a) w₁ ∧ Ends answer (f a) w₁ (.ok b) w' := by
  rw [andThen, Script.ends_bind]
  constructor
  · rintro ⟨r, w₁, hfirst, hsecond⟩
    cases r with
    | ok a => exact ⟨a, w₁, hfirst, hsecond⟩
    | error e => cases (Script.ends_done.1 hsecond).1
  · rintro ⟨a, w₁, hfirst, hsecond⟩
    exact ⟨.ok a, w₁, hfirst, hsecond⟩

/-- A pass in two parts ends as the second does when the first ends well. -/
theorem ends_andThen_of_ok {p : Pass α} {f : α → Pass β} {w w₁ w' : W} {a : α}
    {r : Except PassError β} (hp : Ends answer p w (.ok a) w₁) (hf : Ends answer (f a) w₁ r w') :
    Ends answer (p.andThen f) w r w' :=
  Script.ends_bind.2 ⟨.ok a, w₁, hp, hf⟩

/-- It ends as the first when that fails. -/
theorem ends_andThen_of_error {p : Pass α} (f : α → Pass β) {w w' : W} {e : PassError}
    (hp : Ends answer p w (.error e) w') : Ends answer (p.andThen f) w (.error e) w' :=
  Script.ends_bind.2 ⟨.error e, w', hp, Script.ends_done.2 ⟨rfl, rfl⟩⟩

/-- Parts of a pass may be grouped in either way. -/
theorem andThen_assoc {γ : Type} (p : Pass α) (f : α → Pass β) (g : β → Pass γ) :
    (p.andThen f).andThen g = p.andThen fun a => (f a).andThen g := by
  rw [andThen, andThen, andThen, Script.bind_assoc]
  congr 1
  funext r
  cases r <;> rfl

/-- A pass that ends at once does so without a question. -/
theorem ends_of {r r' : Except PassError α} {w w' : W} :
    Ends answer (of r) w r' w' ↔ r' = r ∧ w' = w :=
  Script.ends_done

/-- What a limited call settles well was answered in time. -/
theorem settle_eq_ok {ε : Type} {operation : Operation} {limit : Nat} {wrap : ε → PassError}
    {v : Verdict (Except ε α)} {a : α} (h : settle operation limit wrap v = .ok a) :
    v = .answered (.ok a) := by
  cases v with
  | answered r =>
    cases r with
    | ok a' =>
      cases h
      rfl
    | error e => cases h
  | timedOut => cases h
  | cancelled => cases h

/-- Without a result of the call the pass cannot go on. -/
theorem exists_settle_eq_error {ε : Type} (operation : Operation) (limit : Nat)
    (wrap : ε → PassError) {v : Verdict (Except ε α)} (h : ∀ a, v ≠ .answered (.ok a)) :
    ∃ e, settle operation limit wrap v = .error e := by
  cases hsettle : settle operation limit wrap v with
  | ok a => exact absurd (settle_eq_ok hsettle) (h a)
  | error e => exact ⟨e, rfl⟩

/-- While `Keeps` holds of the world, a pass keeps it so and ends well with just the results that
satisfy `P`. -/
structure Reads (answer : (q : Request) → W → q.Answer × W) (Keeps : W → Prop) (p : Pass α)
    (P : α → Prop) : Prop where
  sound : ∀ {w w' a}, Keeps w → Ends answer p w (.ok a) w' → Keeps w' ∧ P a
  complete : ∀ {w a}, Keeps w → P a → ∃ w', Ends answer p w (.ok a) w'

section Reads

variable {Keeps : W → Prop} {p : Pass α} {f : α → Pass β} {P : α → Prop} {R : α → β → Prop}

/-- A result that is there is read without a question. -/
theorem reads_of (r : Except PassError α) : Reads answer Keeps (of r) fun a => r = .ok a where
  sound hw hends := by
    obtain ⟨hr, rfl⟩ := ends_of.1 hends
    exact ⟨hw, hr.symm⟩
  complete {w} _ _ hr := ⟨w, ends_of.2 ⟨hr.symm, rfl⟩⟩

/-- Two readings one after the other are one. -/
theorem Reads.andThen (hp : Reads answer Keeps p P) (hf : ∀ a, Reads answer Keeps (f a) (R a)) :
    Reads answer Keeps (p.andThen f) fun b => ∃ a, P a ∧ R a b where
  sound hw hends := by
    obtain ⟨a, w₁, hfirst, hsecond⟩ := ends_andThen.1 hends
    obtain ⟨hw₁, ha⟩ := hp.sound hw hfirst
    obtain ⟨hw', hb⟩ := (hf a).sound hw₁ hsecond
    exact ⟨hw', a, ha, hb⟩
  complete hw hb := by
    obtain ⟨a, ha, hb⟩ := hb
    obtain ⟨w₁, hfirst⟩ := hp.complete hw ha
    obtain ⟨w', hsecond⟩ := (hf a).complete (hp.sound hw hfirst).1 hb
    exact ⟨w', ends_andThen.2 ⟨a, w₁, hfirst, hsecond⟩⟩

/-- What is read may be said in another way. -/
theorem Reads.congr {P' : α → Prop} (h : Reads answer Keeps p P) (hP : ∀ a, P a ↔ P' a) :
    Reads answer Keeps p P' where
  sound hw hends := (h.sound hw hends).imp_right (hP _).1
  complete hw ha := h.complete hw ((hP _).2 ha)

end Reads

section Pages

variable {request : Option String → Request}
  {absorb : σ → (token : Option String) → (request token).Answer →
    Except PassError (σ × Option String)}

/-- Following pages from a token on, with what has been taken in before. -/
def pagesFrom (request : Option String → Request)
    (absorb : σ → (token : Option String) → (request token).Answer →
      Except PassError (σ × Option String)) (acc : σ) (token : Option String) : Pass σ :=
  .iterate (acc, token) (fun s => request s.2) fun s answer =>
    match absorb s.1 s.2 answer with
    | .error e => .done (.inr (.error e))
    | .ok (acc, none) => .done (.inr (.ok acc))
    | .ok (acc, some token) => .done (.inl (acc, some token))

/-- Following pages asks for the page of the token, and goes on with the next one if there is one. -/
theorem head_pagesFrom {acc : σ} {token : Option String} :
    (pagesFrom request absorb acc token).head = .ask (request token) fun a =>
      match absorb acc token a with
      | .error e => .done (.error e)
      | .ok (acc', none) => .done (.ok acc')
      | .ok (acc', some t) => pagesFrom request absorb acc' (some t) := by
  simp only [pagesFrom, Script.iterate, Script.head]
  congr 1
  funext a
  cases absorb acc token a with
  | error e => rfl
  | ok taken =>
    obtain ⟨acc', next⟩ := taken
    cases next <;> rfl

/-- Following pages asks for the page of the token, and goes on with the next one or with what comes
after the pages. -/
theorem head_pagesFrom_andThen {acc : σ} {token : Option String} {f : σ → Pass α} :
    ((pagesFrom request absorb acc token).andThen f).head = .ask (request token) fun a =>
      match absorb acc token a with
      | .error e => .done (.error e)
      | .ok (acc', none) => f acc'
      | .ok (acc', some t) => (pagesFrom request absorb acc' (some t)).andThen f := by
  simp only [pagesFrom, Script.iterate, andThen, Script.bind, Script.head]
  congr 1
  funext a
  cases absorb acc token a with
  | error e => rfl
  | ok taken =>
    obtain ⟨acc', next⟩ := taken
    cases next <;> rfl

/-- A page is taken in; the pages after it follow when it names one. -/
theorem ends_pagesFrom {acc : σ} {token : Option String} {w w' : W}
    {r : Except PassError σ} :
    Ends answer (pagesFrom request absorb acc token) w r w' ↔
      match absorb acc token (answer (request token) w).1 with
      | .error e => r = .error e ∧ w' = (answer (request token) w).2
      | .ok (acc', none) => r = .ok acc' ∧ w' = (answer (request token) w).2
      | .ok (acc', some t) =>
        Ends answer (pagesFrom request absorb acc' (some t)) (answer (request token) w).2 r w' := by
  rw [pagesFrom, Script.iterate, Script.ends_loop]
  dsimp only
  cases habsorb : absorb acc token (answer (request token) w).1 with
  | error e => simp [and_assoc]
  | ok taken =>
    obtain ⟨acc', next⟩ := taken
    cases next with
    | none => simp [and_assoc]
    | some t => simp [and_assoc, pagesFrom, Script.iterate]

/-- The requests are answered, while `Keeps` holds of the world, with the pages of a list whose
items are taken in one by one. -/
structure Lists (answer : (q : Request) → W → q.Answer × W) (Keeps : W → Prop) (items : List ι)
    (limit : Nat) (request : Option String → Request)
    (absorb : σ → (token : Option String) → (request token).Answer →
      Except PassError (σ × Option String)) (take : σ → ι → Except PassError σ) : Prop where
  /-- A request leaves the list as it is. -/
  keeps : ∀ {w}, Keeps w → ∀ token, Keeps (answer (request token) w).2
  /-- The token of an offset is answered with the page there. -/
  page : ∀ {w}, Keeps w → ∀ {token n}, Memory.offset token = .ok n → ∀ acc,
    absorb acc token (answer (request token) w).1 =
      ((Memory.pageAt items n limit).items.foldlM take acc).map fun acc' =>
        (acc', nextToken (Memory.pageAt items n limit).next)
  /-- A token that stands for no offset is refused. -/
  refused : ∀ {w}, Keeps w → ∀ {token detail}, Memory.offset token = .error detail → ∀ acc,
    ∃ e, absorb acc token (answer (request token) w).1 = .error e

variable {Keeps : W → Prop} {items : List ι} {limit : Nat} {take : σ → ι → Except PassError σ}

/-- Taking in what is left of a list is taking in the next page and then what is left after it. -/
private theorem foldlM_drop (items : List ι) (n limit : Nat) (take : σ → ι → Except PassError σ)
    (acc : σ) :
    (items.drop n).foldlM take acc =
      (Memory.pageAt items n limit).items.foldlM take acc >>= fun acc' =>
        (items.drop (n + max limit 1)).foldlM take acc' := by
  rw [← Memory.pageAt_items_append items n limit, List.foldlM_append]

/-- Pages that are read to the end have brought every item once, and their tokens fitted. -/
private theorem of_ends_pagesFrom (h : Lists answer Keeps items limit request absorb take)
    {k n : Nat} (hk : items.length - n < k) {token : Option String}
    (htoken : Memory.offset token = .ok n) {acc out : σ} {w w' : W} (hw : Keeps w)
    (hends : Ends answer (pagesFrom request absorb acc token) w (.ok out) w') :
    Keeps w' ∧ Memory.TokensFit n items.length limit ∧
      (items.drop n).foldlM take acc = .ok out := by
  -- The induction is on how much of the list is left, which every page makes less.
  induction k generalizing n token acc w with
  | zero => exact absurd hk (Nat.not_lt_zero _)
  | succ k ih =>
    rw [ends_pagesFrom, h.page hw htoken] at hends
    rw [foldlM_drop items n limit]
    cases hfold : (Memory.pageAt items n limit).items.foldlM take acc with
    | error e =>
      rw [hfold] at hends
      cases hends.1
    | ok acc' =>
      rw [hfold] at hends
      by_cases hmore : n + max limit 1 < items.length
      · -- The page is full, so the next one starts where it ends, if its token fits.
        rw [Memory.pageAt_next_of_lt hmore, Memory.nextToken_toString] at hends
        have hnext := h.keeps hw token
        rcases Nat.lt_or_ge (n + max limit 1) Memory.offsetBound with hfit | hfit
        · have hdrop : items.length - (n + max limit 1) < k := by omega
          obtain ⟨hkeeps, hfits, hrest⟩ := ih hdrop (Memory.offset_toString hfit) hnext hends
          exact ⟨hkeeps, (Memory.tokensFit_iff hmore).2 ⟨hfit, hfits⟩, hrest⟩
        · obtain ⟨detail, hdetail⟩ := Memory.offset_toString_of_le hfit
          obtain ⟨e, he⟩ := h.refused hnext hdetail acc'
          have hfail := ends_pagesFrom.1 hends
          rw [he] at hfail
          cases hfail.1
      · have hend : items.length ≤ n + max limit 1 := Nat.le_of_not_lt hmore
        rw [Memory.pageAt_next_of_le hend] at hends
        obtain ⟨hout, rfl⟩ := hends
        cases hout
        refine ⟨h.keeps hw token, Memory.tokensFit_of_end hend, ?_⟩
        rw [List.drop_of_length_le hend]
        rfl

/-- A list whose tokens fit is read to the end when its items can be taken in. -/
private theorem ends_pagesFrom_of_fits (h : Lists answer Keeps items limit request absorb take)
    {k n : Nat} (hk : items.length - n < k) {token : Option String}
    (htoken : Memory.offset token = .ok n) {acc out : σ} {w : W} (hw : Keeps w)
    (hfits : Memory.TokensFit n items.length limit)
    (hout : (items.drop n).foldlM take acc = .ok out) :
    ∃ w', Ends answer (pagesFrom request absorb acc token) w (.ok out) w' := by
  -- By induction on a bound of what is left after the offset.
  induction k generalizing n token acc w with
  | zero => exact absurd hk (Nat.not_lt_zero _)
  | succ k ih =>
    refine (exists_congr fun _ => ends_pagesFrom).2 ?_
    simp only [h.page hw htoken]
    rw [foldlM_drop items n limit] at hout
    cases hfold : (Memory.pageAt items n limit).items.foldlM take acc with
    | error e =>
      rw [hfold] at hout
      cases hout
    | ok acc' =>
      rw [hfold] at hout
      by_cases hmore : n + max limit 1 < items.length
      · rw [Memory.tokensFit_iff hmore] at hfits
        have hdrop : items.length - (n + max limit 1) < k := by omega
        have hrest := ih hdrop (Memory.offset_toString hfits.1) (h.keeps hw token) hfits.2 hout
        simp only [Except.map, Memory.pageAt_next_of_lt hmore, Memory.nextToken_toString]
        exact hrest
      · have hend : items.length ≤ n + max limit 1 := Nat.le_of_not_lt hmore
        rw [List.drop_of_length_le hend] at hout
        cases hout
        simp [Except.map, Memory.pageAt_next_of_le hend, nextToken]

/-- Following pages takes in every item of the list once, in order. -/
theorem Lists.reads (h : Lists answer Keeps items limit request absorb take) (initial : σ) :
    Reads answer Keeps (pages request absorb initial) fun out =>
      Memory.TokensFit 0 items.length limit ∧ items.foldlM take initial = .ok out where
  sound hw hends := of_ends_pagesFrom h (Nat.lt_succ_self _) Memory.offset_none hw hends
  complete hw hout :=
    ends_pagesFrom_of_fits h (Nat.lt_succ_self _) Memory.offset_none hw hout.1 hout.2

end Pages

end PolicySync.Pass
