/-!
# Scripts

A `Script` is a program as data: it has ended with a result, or it asks a question and goes on with
the answer. A loop asks at the start of every round, so a script always comes to its next question
or its end at once, while the number of rounds is left to the answers. Whoever answers decides the
meaning: an environment can answer one script (`Script.run`), or take turns between several.
-/

namespace PolicySync

/-- A program that asks questions of type `Q`, a question `q` being answered by a value of type
`A q`, and ends with an `α`. -/
inductive Script (Q : Type) (A : Q → Type) : Type → Type 1 where
  /-- The end, with its result. -/
  | done {α : Type} (result : α) : Script Q A α
  /-- A question and what to do with its answer. -/
  | ask {α : Type} (q : Q) (next : A q → Script Q A α) : Script Q A α
  /-- Rounds that start with a question for the state; a round ends with a new state or leaves. -/
  | loop {α β σ : Type} (state : σ) (q : σ → Q)
      (round : (s : σ) → A (q s) → Script Q A (σ ⊕ β)) (leave : β → Script Q A α) : Script Q A α

namespace Script

variable {Q : Type} {A : Q → Type} {α β σ : Type}

/-- A script followed by one that depends on its result. -/
def bind : Script Q A α → (α → Script Q A β) → Script Q A β
  | done a, f => f a
  | ask q next, f => ask q fun a => (next a).bind f
  | loop s q round leave, f => loop s q round fun b => (leave b).bind f

instance : Monad (Script Q A) where
  pure := done
  bind := bind

/-- A single question. -/
def query (q : Q) : Script Q A (A q) := ask q done

/-- Rounds from a state until one leaves with a result. -/
def iterate (state : σ) (q : σ → Q) (round : (s : σ) → A (q s) → Script Q A (σ ⊕ β)) :
    Script Q A β :=
  loop state q round done

/-- A script's next question with what follows, or its result. -/
inductive Head (Q : Type) (A : Q → Type) (α : Type) : Type 1 where
  | done (result : α)
  | ask (q : Q) (next : A q → Script Q A α)

/-- What a script does next. A round of a loop that ends with a new state is followed by the loop
from that state. -/
def head : Script Q A α → Head Q A α
  | done a => .done a
  | ask q next => .ask q next
  | loop s q round leave => .ask (q s) fun a => (round s a).bind fun
    | .inl s' => loop s' q round leave
    | .inr b => leave b

/-- The result and the world after answering at most `fuel` questions, the world after each answer
being given by `answer`; nothing when the script asks more. -/
def run {W : Type u} (answer : (q : Q) → W → A q × W) : Nat → Script Q A α → W → Option (α × W)
  | 0, p, w =>
    match p.head with
    | .done a => some (a, w)
    | .ask _ _ => none
  | fuel + 1, p, w =>
    match p.head with
    | .done a => some (a, w)
    | .ask q next =>
      let (a, w) := answer q w
      run answer fuel (next a) w

end Script

end PolicySync
