import PolicySync.Script

/-!
# How scripts end

`Script.Ends answer p w a w'` says that the script `p`, with its questions answered by `answer` from
the world `w` on, comes to its end with the result `a` in the world `w'`. It does so in at most one
way (`Ends.unique`), and a script of several parts ends when its parts end one after the other
(`ends_bind`, `ends_loop`).
-/

namespace PolicySync.Script

variable {Q : Type} {A : Q → Type} {α β γ σ : Type} {W : Type u}

/-! ## Parts of a script -/

/-- Parts of a script may be grouped in either way. -/
theorem bind_assoc (p : Script Q A α) (f : α → Script Q A β) (g : β → Script Q A γ) :
    (p.bind f).bind g = p.bind fun a => (f a).bind g := by
  induction p with
  | done a => rfl
  | ask q next ih =>
    simp only [bind]
    congr 1
    funext a
    exact ih a f
  | loop s q round leave _ ih =>
    simp only [bind]
    congr 1
    funext b
    exact ih b f

/-- A script whose first part has ended goes on with the second. -/
theorem head_bind_done {p : Script Q A α} {a : α} (h : p.head = .done a) (f : α → Script Q A β) :
    (p.bind f).head = (f a).head := by
  cases p with
  | done b => cases h; rfl
  | ask q next => cases h
  | loop s q round leave => cases h

/-- A script asks what its first part asks. -/
theorem head_bind_ask {p : Script Q A α} {q : Q} {next : A q → Script Q A α}
    (h : p.head = .ask q next) (f : α → Script Q A β) :
    (p.bind f).head = .ask q fun a => (next a).bind f := by
  cases p with
  | done b => cases h
  | ask q next => cases h; rfl
  | loop s q round leave =>
    cases h
    simp only [bind, head]
    congr 1
    funext a
    rw [bind_assoc]
    congr 1
    funext r
    cases r <;> rfl

/-! ## Ends -/

/-- With its questions answered by `answer` from a world on, a script ends with a result in a
world. -/
inductive Ends (answer : (q : Q) → W → A q × W) : Script Q A α → W → α → W → Prop where
  | done {p : Script Q A α} {a : α} {w : W} (h : p.head = .done a) : Ends answer p w a w
  | ask {p : Script Q A α} {q : Q} {next : A q → Script Q A α} {w w' : W} {a : α}
      (h : p.head = .ask q next)
      (hnext : Ends answer (next (answer q w).1) (answer q w).2 a w') : Ends answer p w a w'

variable {answer : (q : Q) → W → A q × W}

/-- A script that is done ends at once. -/
theorem ends_of_head_done {p : Script Q A α} {a : α} (h : p.head = .done a) {w : W} {b : α}
    {w' : W} : Ends answer p w b w' ↔ b = a ∧ w' = w := by
  constructor
  · intro hends
    cases hends with
    | done h' => rw [h] at h'; cases h'; exact ⟨rfl, rfl⟩
    | ask h' _ => rw [h] at h'; cases h'
  · rintro ⟨rfl, rfl⟩
    exact .done h

/-- A script that asks ends as what follows the answer does. -/
theorem ends_of_head_ask {p : Script Q A α} {q : Q} {next : A q → Script Q A α}
    (h : p.head = .ask q next) {w : W} {b : α} {w' : W} :
    Ends answer p w b w' ↔ Ends answer (next (answer q w).1) (answer q w).2 b w' := by
  constructor
  · intro hends
    cases hends with
    | done h' => rw [h] at h'; cases h'
    | ask h' hnext => rw [h] at h'; cases h'; exact hnext
  · exact .ask h

@[simp] theorem ends_done {a b : α} {w w' : W} :
    Ends answer (done a) w b w' ↔ b = a ∧ w' = w :=
  ends_of_head_done rfl

@[simp] theorem ends_ask {q : Q} {next : A q → Script Q A α} {w : W} {b : α} {w' : W} :
    Ends answer (ask q next) w b w' ↔ Ends answer (next (answer q w).1) (answer q w).2 b w' :=
  ends_of_head_ask rfl

/-- A run to the end is an end. -/
theorem ends_of_run {fuel : Nat} {p : Script Q A α} {w w' : W} {a : α}
    (h : run answer fuel p w = some (a, w')) : Ends answer p w a w' := by
  -- The fuel counts the questions, and it plays no part in the end.
  induction fuel generalizing p w with
  | zero =>
    rw [run] at h
    cases hp : p.head with
    | done b =>
      rw [hp] at h
      cases h
      exact .done hp
    | ask q next =>
      rw [hp] at h
      cases h
  | succ fuel ih =>
    rw [run] at h
    cases hp : p.head with
    | done b =>
      rw [hp] at h
      cases h
      exact .done hp
    | ask q next =>
      rw [hp] at h
      exact .ask hp (ih h)

/-- A script ends in one way. -/
theorem Ends.unique {p : Script Q A α} {w : W} {a b : α} {wa wb : W}
    (ha : Ends answer p w a wa) (hb : Ends answer p w b wb) : a = b ∧ wa = wb := by
  induction ha with
  | done h =>
    obtain ⟨rfl, rfl⟩ := (ends_of_head_done h).1 hb
    exact ⟨rfl, rfl⟩
  | ask h _ ih => exact ih ((ends_of_head_ask h).1 hb)

/-- A script of two parts ends when the first part ends and then the second. -/
theorem ends_bind {p : Script Q A α} {f : α → Script Q A β} {w : W} {b : β} {w' : W} :
    Ends answer (p.bind f) w b w' ↔
      ∃ a w₁, Ends answer p w a w₁ ∧ Ends answer (f a) w₁ b w' := by
  constructor
  · -- By induction on the end of the whole, which the first part shares as long as it asks.
    intro h
    generalize hwhole : p.bind f = whole at h
    induction h generalizing p with
    | done hhead =>
      subst hwhole
      cases hp : p.head with
      | done a => exact ⟨a, _, .done hp, .done (head_bind_done hp f ▸ hhead)⟩
      | ask q next => rw [head_bind_ask hp f] at hhead; cases hhead
    | ask hhead hnext ih =>
      subst hwhole
      cases hp : p.head with
      | done a => exact ⟨a, _, .done hp, .ask (head_bind_done hp f ▸ hhead) hnext⟩
      | ask q next =>
        rw [head_bind_ask hp f] at hhead
        cases hhead
        obtain ⟨a, w₁, hfirst, hsecond⟩ := ih rfl
        exact ⟨a, w₁, .ask hp hfirst, hsecond⟩
  · rintro ⟨a, w₁, hfirst, hsecond⟩
    induction hfirst with
    | done hp =>
      cases hsecond with
      | done hhead => exact .done (head_bind_done hp f ▸ hhead)
      | ask hhead hnext => exact .ask (head_bind_done hp f ▸ hhead) hnext
    | ask hp _ ih => exact .ask (head_bind_ask hp f) (ih hsecond)

/-- A loop ends when its first round leaves and then the rest ends, or when the round leads to a
state from which the loop ends. -/
theorem ends_loop {s : σ} {q : σ → Q} {round : (s : σ) → A (q s) → Script Q A (σ ⊕ β)}
    {leave : β → Script Q A α} {w : W} {b : α} {w' : W} :
    Ends answer (loop s q round leave) w b w' ↔
      ∃ r w₁, Ends answer (round s (answer (q s) w).1) (answer (q s) w).2 r w₁ ∧
        Ends answer (match r with
          | .inl s' => loop s' q round leave
          | .inr c => leave c) w₁ b w' :=
  (ends_of_head_ask rfl).trans ends_bind

end PolicySync.Script
