import PolicySync.Proofs.Script

/-!
# Runs of scripts

While `Ends` follows a script whose answers are a function of the world, `Script.Runs` follows one
that may be answered in several ways, and it may stop anywhere: the events of the run are the
questions with their answers, and a script is left that says what comes next. A run of two parts is
a run of the first part alone, or a whole one of it and then one of the second (`of_runs_bind`).
-/

namespace PolicySync.Script

variable {Q : Type} {A : Q → Type} {α β : Type} {W : Type u}

/-- A question with its answer. -/
abbrev Event (Q : Type) (A : Q → Type) : Type := (q : Q) × A q

/-- Answered in ways that `answers` allows, a script has come with some events from one world to
another, and there is a script left. -/
inductive Runs (answers : W → (q : Q) → A q → W → Prop) :
    Script Q A α → W → List (Event Q A) → Script Q A α → W → Prop where
  | refl (p : Script Q A α) (w : W) : Runs answers p w [] p w
  | ask {p p' : Script Q A α} {q : Q} {next : A q → Script Q A α} {a : A q} {w w₁ w' : W}
      {events : List (Event Q A)} (h : p.head = .ask q next) (ha : answers w q a w₁)
      (hrest : Runs answers (next a) w₁ events p' w') :
      Runs answers p w (⟨q, a⟩ :: events) p' w'

variable {answers : W → (q : Q) → A q → W → Prop} {p p' : Script Q A α} {f : α → Script Q A β}
  {w w' w₁ : W} {events : List (Event Q A)}

/-- A script that is done at its head is nothing else. -/
theorem eq_done_of_head {a : α} (h : p.head = .done a) : p = done a := by
  cases p with
  | done b =>
    cases h
    rfl
  | ask q next => cases h
  | loop s q round leave => cases h

/-- A script that is done does not run on. -/
theorem runs_done {a : α} :
    Runs answers (done a) w events p' w' ↔ events = [] ∧ p' = done a ∧ w' = w := by
  constructor
  · intro h
    cases h with
    | refl => exact ⟨rfl, rfl, rfl⟩
    | ask h => cases h
  · rintro ⟨rfl, rfl, rfl⟩
    exact .refl _ _

/-- Runs can be put together. -/
theorem Runs.trans {p₁ : Script Q A α} {events' : List (Event Q A)}
    (h : Runs answers p w events p₁ w₁) (h' : Runs answers p₁ w₁ events' p' w') :
    Runs answers p w (events ++ events') p' w' := by
  induction h with
  | refl => exact h'
  | ask hhead ha _ ih => exact .ask hhead ha (ih h')

/-- A run of the first part is one of the whole. -/
theorem Runs.bind (h : Runs answers p w events p' w') (f : α → Script Q A β) :
    Runs answers (p.bind f) w events (p'.bind f) w' := by
  induction h with
  | refl => exact .refl _ _
  | ask hhead ha _ ih => exact .ask (head_bind_ask hhead f) ha ih

/-- A run of the whole is one of the first part, or goes on after the end of that. -/
theorem of_runs_bind {r : Script Q A β} (h : Runs answers (p.bind f) w events r w') :
    (∃ p', r = p'.bind f ∧ Runs answers p w events p' w') ∨
      ∃ a events₁ events₂ w₁, events = events₁ ++ events₂ ∧ Runs answers p w events₁ (done a) w₁ ∧
        Runs answers (f a) w₁ events₂ r w' := by
  generalize hwhole : p.bind f = whole at h
  induction h generalizing p with
  | refl =>
    subst hwhole
    exact .inl ⟨p, rfl, .refl _ _⟩
  | @ask _ _ q next a w w₁ w' events hhead ha hrest ih =>
    subst hwhole
    cases hp : p.head with
    | done b =>
      -- The first part is over already.
      obtain rfl := eq_done_of_head hp
      exact .inr ⟨b, [], _, w, rfl, .refl _ _, .ask hhead ha hrest⟩
    | ask q' next' =>
      rw [head_bind_ask hp f] at hhead
      cases hhead
      rcases ih rfl with ⟨p', hr, hfirst⟩ | ⟨b, events₁, events₂, w₂, rfl, hfirst, hsecond⟩
      · exact .inl ⟨p', hr, .ask hp ha hfirst⟩
      · exact .inr ⟨b, _, events₂, w₂, rfl, .ask hp ha hfirst, hsecond⟩

/-- A script of two parts has come to its end when the first part has and then the second. -/
theorem runs_bind_done {b : β} : Runs answers (p.bind f) w events (done b) w' ↔
    ∃ a events₁ events₂ w₁, events = events₁ ++ events₂ ∧ Runs answers p w events₁ (done a) w₁ ∧
      Runs answers (f a) w₁ events₂ (done b) w' := by
  constructor
  · intro h
    rcases of_runs_bind h with ⟨p', hr, hfirst⟩ | hboth
    · -- What is left of the first part is its end, since the whole is at its end.
      cases p' with
      | done a => exact ⟨a, events, [], w', by simp, hfirst, hr ▸ .refl _ _⟩
      | ask q next => cases hr
      | loop s q round leave => cases hr
    · exact hboth
  · rintro ⟨a, events₁, events₂, w₁, rfl, hfirst, hsecond⟩
    exact (hfirst.bind f).trans hsecond

/-- A run to the end by a function is a run by its answers. -/
theorem exists_runs_of_ends {answer : (q : Q) → W → A q × W} {a : α}
    (hanswers : ∀ w q, answers w q (answer q w).1 (answer q w).2) (h : Ends answer p w a w') :
    ∃ events, Runs answers p w events (done a) w' := by
  induction h with
  | done hp =>
    obtain rfl := eq_done_of_head hp
    exact ⟨[], .refl _ _⟩
  | ask hp _ ih =>
    obtain ⟨events, hrest⟩ := ih
    exact ⟨_, .ask hp (hanswers _ _) hrest⟩

/-- A run to the end whose answers are those of a function ends as the function has it. -/
theorem Runs.ends {answer : (q : Q) → W → A q × W} {a : α} {fair : Event Q A → Prop}
    (hanswers : ∀ {w q a w'}, answers w q a w' → fair ⟨q, a⟩ → answer q w = (a, w'))
    (h : Runs answers p w events (done a) w') (hfair : ∀ e ∈ events, fair e) :
    Ends answer p w a w' := by
  generalize hend : done a = e at h
  induction h with
  | refl =>
    subst hend
    exact .done rfl
  | ask hhead ha _ ih =>
    rw [List.forall_mem_cons] at hfair
    have hanswer := hanswers ha hfair.1
    refine .ask hhead ?_
    rw [hanswer]
    exact ih hfair.2 hend

/-! ## What a script asks -/

/-- However it is answered, a script asks only questions that satisfy `P`. -/
def Asks (P : Q → Prop) {α : Type} : Script Q A α → Prop
  | done _ => True
  | ask q next => P q ∧ ∀ a, (next a).Asks P
  | loop _ q round leave => (∀ s, P (q s) ∧ ∀ a, (round s a).Asks P) ∧ ∀ b, (leave b).Asks P

variable {P : Q → Prop}

/-- A script that asks such questions asks questions of a wider kind. -/
theorem Asks.mono {P' : Q → Prop} (h : p.Asks P) (hP : ∀ q, P q → P' q) : p.Asks P' := by
  induction p with
  | done a => trivial
  | ask q next ih => exact ⟨hP q h.1, fun a => ih a (h.2 a)⟩
  | loop s q round leave hround hleave =>
    exact ⟨fun s => ⟨hP _ (h.1 s).1, fun a => hround s a ((h.1 s).2 a)⟩, fun b => hleave b (h.2 b)⟩

/-- A script in two parts asks what its parts ask. -/
theorem Asks.bind (hp : p.Asks P) (hf : ∀ a, (f a).Asks P) : (p.bind f).Asks P := by
  induction p with
  | done a => exact hf a
  | ask q next ih => exact ⟨hp.1, fun a => ih a (hp.2 a) hf⟩
  | loop s q round leave _ hleave => exact ⟨hp.1, fun b => hleave b (hp.2 b) hf⟩

/-- The next question satisfies `P`, and so do those after it. -/
theorem Asks.head (h : p.Asks P) {q : Q} {next : A q → Script Q A α} (hq : p.head = .ask q next) :
    P q ∧ ∀ a, (next a).Asks P := by
  cases p with
  | done a => cases hq
  | ask q next =>
    cases hq
    exact h
  | loop s q round leave =>
    cases hq
    refine ⟨(h.1 s).1, fun a => ((h.1 s).2 a).bind fun r => ?_⟩
    cases r with
    | inl s' => exact h
    | inr b => exact h.2 b

/-- All questions of a run satisfy `P`, and so do those that are left. -/
theorem Asks.runs (h : p.Asks P) (hrun : Runs answers p w events p' w') :
    (∀ e ∈ events, P e.1) ∧ p'.Asks P := by
  induction hrun with
  | refl => exact ⟨fun e he => absurd he List.not_mem_nil, h⟩
  | ask hhead _ _ ih =>
    obtain ⟨hq, hnext⟩ := h.head hhead
    obtain ⟨hevents, hrest⟩ := ih (hnext _)
    exact ⟨List.forall_mem_cons.2 ⟨hq, hevents⟩, hrest⟩

/-- What the answers to such questions keep holds after a run, too. -/
theorem Asks.keeps {I : W → Prop} (h : p.Asks P)
    (hkeeps : ∀ {w q a w'}, P q → answers w q a w' → I w → I w')
    (hrun : Runs answers p w events p' w') (hw : I w) : I w' := by
  induction hrun with
  | refl => exact hw
  | ask hhead ha _ ih =>
    obtain ⟨hq, hnext⟩ := h.head hhead
    exact ih (hnext _) (hkeeps hq ha hw)

/-! ## What a script results in -/

/-- However it is answered, a script ends with no result but those that satisfy `P`. -/
def Yields {α : Type} (P : α → Prop) : Script Q A α → Prop
  | done a => P a
  | ask _ next => ∀ a, (next a).Yields P
  | loop _ _ _ leave => ∀ b, (leave b).Yields P

/-- Every script ends with something, if it ends. -/
theorem yields_true (p : Script Q A α) : p.Yields fun _ => True := by
  induction p with
  | done a => trivial
  | ask q next ih => exact ih
  | loop s q round leave _ hleave => exact hleave

/-- What a script ends with has every weaker property. -/
theorem Yields.mono {P P' : α → Prop} (h : p.Yields P) (hP : ∀ a, P a → P' a) : p.Yields P' := by
  induction p with
  | done a => exact hP a h
  | ask q next ih => exact fun a => ih a (h a) hP
  | loop s q round leave _ hleave => exact fun b => hleave b (h b) hP

/-- A script in two parts ends as its second part does, which starts from what the first ends with.
-/
theorem Yields.bind {R : α → Prop} {P : β → Prop} (hp : p.Yields R)
    (hf : ∀ a, R a → (f a).Yields P) : (p.bind f).Yields P := by
  induction p with
  | done a => exact hf a hp
  | ask q next ih => exact fun a => ih a (hp a) hf
  | loop s q round leave _ hleave => exact fun b => hleave b (hp b) hf

/-- Whatever the answer is, the rest of the script ends with the same kind of result. -/
theorem Yields.head {P : α → Prop} (h : p.Yields P) {q : Q} {next : A q → Script Q A α}
    (hq : p.head = .ask q next) (a : A q) : (next a).Yields P := by
  cases p with
  | done a => cases hq
  | ask q next =>
    cases hq
    exact h a
  | loop s q round leave =>
    cases hq
    refine (yields_true _).bind fun r _ => ?_
    cases r with
    | inl s' => exact h
    | inr b => exact h b

/-- The result of a run satisfies `P`. -/
theorem Yields.runs {P : α → Prop} (h : p.Yields P) (hrun : Runs answers p w events p' w') :
    p'.Yields P := by
  induction hrun with
  | refl => exact h
  | ask hhead _ _ ih => exact ih (h.head hhead _)

end PolicySync.Script
