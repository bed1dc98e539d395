import Mathlib.Data.Nat.Find
import PolicySync.Http.Retry
import PolicySync.Proofs.Script.Collecting

/-!
# Attempts that are repeated

A policy asks for all attempts up to the first that does not fail for a passing reason, as long as
it allows them (`RetryPolicy.attempts`). In an environment the attempt after some failed ones is made
in the world that they and the waits after them have led to (`Repetition.worlds`), so the outcomes of
all attempts that could be made are known beforehand. `Repetition.Settles` says what comes of them:
the last outcome, unless a wait that is due is no length of time.

`retry` is not the only script that repeats an attempt, a loop can do so in each of its rounds. What
they have in common is one step (`Repetition.Repeats`). By induction on the failed attempts they make
the same attempts with the same waits between them, and go on with what comes of these
(`Repeats.ends_recording_iff`).
-/

namespace PolicySync.Http

variable {ε α : Type}

/-- Whether an attempt has failed for a passing reason. -/
def passes (isPassing : ε → Bool) : Except ε α → Bool
  | .ok _ => false
  | .error e => isPassing e

/-- Only an error can be a passing one. -/
theorem passes_iff {isPassing : ε → Bool} {result : Except ε α} :
    passes isPassing result = true ↔ ∃ e, result = .error e ∧ isPassing e = true := by
  cases result <;> simp [passes]

/-! ## How many attempts there are -/

namespace RetryPolicy

variable {p : RetryPolicy} {passing : Nat → Bool} {k : Nat}

/-- How many attempts a policy asks for, `passing k` saying whether the one after `k` failed ones
fails for a passing reason. -/
def attempts (p : RetryPolicy) (passing : Nat → Bool) : Nat :=
  (List.range (p.maxAttempts - 1)).findIdx (fun k => !passing k) + 1

/-- After an attempt there is another one if this one and those before it fail for a passing reason
and another one is allowed. -/
theorem lt_attempts_iff :
    k + 1 < p.attempts passing ↔ k + 1 < p.maxAttempts ∧ ∀ j ≤ k, passing j = true := by
  simp only [attempts, Nat.add_lt_add_iff_right, List.lt_findIdx_iff, List.length_range,
    List.getElem_range, Bool.not_eq_false', exists_prop, Nat.lt_sub_iff_add_lt]

/-- There is always a first attempt. -/
theorem attempts_pos : 0 < p.attempts passing := Nat.succ_pos _

/-- The last attempt does not fail for a passing reason, or no other one is allowed. -/
theorem last_of_attempts_eq (h : p.attempts passing = k + 1) :
    ¬ (passing k = true ∧ k + 1 < p.maxAttempts) := by
  rintro ⟨hpassing, hallowed⟩
  have hlast : ¬ k + 1 < p.attempts passing := by omega
  refine hlast (lt_attempts_iff.2 ⟨hallowed, fun j hj => ?_⟩)
  rcases Nat.lt_or_eq_of_le hj with hlt | rfl
  · have hleft : j + 1 < p.attempts passing := by omega
    exact (lt_attempts_iff.1 hleft).2 j (Nat.le_refl j)
  · exact hpassing

/-- Numbers of attempts are equal if there is another attempt after the same ones. -/
theorem attempts_eq {n : Nat} (hn : 0 < n)
    (h : ∀ k, k + 1 < n ↔ k + 1 < p.maxAttempts ∧ ∀ j ≤ k, passing j = true) :
    p.attempts passing = n := by
  have hsame : ∀ k, k + 1 < p.attempts passing ↔ k + 1 < n := fun k =>
    lt_attempts_iff.trans (h k).symm
  have hpos : 0 < p.attempts passing := attempts_pos
  have hle := hsame (n - 1)
  have hge := hsame (p.attempts passing - 1)
  omega

/-- Up to the first attempt that does not fail for a passing reason, all of them are made that are
allowed. -/
theorem attempts_eq_min (hbefore : ∀ j < k, passing j = true) (hfinal : passing k = false) :
    p.attempts passing = min (k + 1) (max p.maxAttempts 1) := by
  refine attempts_eq (by omega) fun m => ?_
  constructor
  · intro hm
    exact ⟨by omega, fun j hj => hbefore j (by omega)⟩
  · rintro ⟨hleft, hpassing⟩
    have hmk : m < k := Nat.lt_of_not_le fun hkm => by
      rw [hpassing k hkm] at hfinal
      cases hfinal
    omega

/-- If all of them fail for a passing reason, all of them are made that are allowed. -/
theorem attempts_eq_max (h : ∀ k, passing k = true) :
    p.attempts passing = max p.maxAttempts 1 := by
  refine attempts_eq (by omega) fun m => ?_
  simp only [h, implies_true, and_true]
  omega

/-- The wait after an attempt, if it is a length of time. -/
def delay (p : RetryPolicy) (k : Nat) : Nat := (p.delay? k).getD 0

/-- A wait that is a length of time is the one that is waited. -/
theorem delay?_eq_delay (h : (p.delay? k).isSome) : p.delay? k = some (p.delay k) := by
  obtain ⟨milliseconds, hsome⟩ := Option.isSome_iff_exists.1 h
  simp [delay, hsome]

end RetryPolicy

/-! ## After an attempt -/

section

variable {Q : Type} {A : Q → Type} {p : RetryPolicy} {wait : Nat → Q} {isPassing : ε → Bool}
  {broken : ε} {failed : Nat} {result : Except ε α}

/-- A passing failure is followed by a wait, if another attempt is allowed. -/
theorem afterAttempt_of_passing (hpassing : passes isPassing result = true)
    (hleft : failed + 1 < p.maxAttempts) (hdelay : (p.delay? failed).isSome) :
    (afterAttempt p wait isPassing broken failed result : Script Q A (Nat ⊕ Except ε α)) =
      .ask (wait (p.delay failed)) fun _ => .done (.inl (failed + 1)) := by
  obtain ⟨e, rfl, he⟩ := passes_iff.1 hpassing
  simp [afterAttempt, he, hleft, RetryPolicy.delay?_eq_delay hdelay]

/-- If the wait is no length of time, the attempts break down. -/
theorem afterAttempt_of_broken (hpassing : passes isPassing result = true)
    (hleft : failed + 1 < p.maxAttempts) (hnone : p.delay? failed = none) :
    (afterAttempt p wait isPassing broken failed result : Script Q A (Nat ⊕ Except ε α)) =
      .done (.inr (.error broken)) := by
  obtain ⟨e, rfl, he⟩ := passes_iff.1 hpassing
  simp [afterAttempt, he, hleft, hnone]

/-- Any other result is final. -/
theorem afterAttempt_of_final
    (h : ¬ (passes isPassing result = true ∧ failed + 1 < p.maxAttempts)) :
    (afterAttempt p wait isPassing broken failed result : Script Q A (Nat ⊕ Except ε α)) =
      .done (.inr result) := by
  cases result with
  | ok a => rfl
  | error e =>
    rw [passes] at h
    simp only [afterAttempt, Bool.and_eq_true, decide_eq_true_eq, if_neg h]

end

/-! ## Repetitions -/

/-- An attempt that is repeated, with the question to wait and what is made of the answers. -/
structure Repetition (Q : Type) (A : Q → Type) (ε α : Type) where
  policy : RetryPolicy
  attempt : Q
  wait : Nat → Q
  read : A attempt → Except ε α
  isPassing : ε → Bool
  broken : ε

namespace Repetition

variable {Q : Type} {A : Q → Type} {γ : Type} {W : Type u}

/-- The script that only repeats the attempt. -/
def script (r : Repetition Q A ε α) : Script Q A (Except ε α) :=
  retry r.policy r.attempt r.wait r.read r.isPassing r.broken

/-- How many attempts the policy asks for, `outcome k` being the outcome of the one after `k`
failed ones. -/
def attempts (r : Repetition Q A ε α) (outcome : Nat → Except ε α) : Nat :=
  r.policy.attempts fun k => passes r.isPassing (outcome k)

/-- Every wait that is due between two attempts is a length of time. -/
def CanWait (r : Repetition Q A ε α) (outcome : Nat → Except ε α) : Prop :=
  ∀ k, k + 1 < r.attempts outcome → (r.policy.delay? k).isSome

/-- With a policy as it is by default one can always wait. -/
theorem canWait_of_default {r : Repetition Q A ε α} (h : r.policy = {})
    (outcome : Nat → Except ε α) : r.CanWait outcome := by
  intro k hk
  have hlt : k + 1 < 3 := by
    simpa only [h] using (RetryPolicy.lt_attempts_iff.1 hk).1
  have hsome : ∀ k < 2, (({} : RetryPolicy).delay? k).isSome := by decide +kernel
  exact h ▸ hsome k (by omega)

/-- The questions of some attempts that fail, with a wait after each. -/
def course (r : Repetition Q A ε α) (failed : Nat) : List Q :=
  (List.range failed).flatMap fun k => [r.attempt, r.wait (r.policy.delay k)]

/-- So many attempts are made, and this comes of them. -/
inductive Settles (r : Repetition Q A ε α) (outcome : Nat → Except ε α) :
    Nat → Except ε α → Prop where
  /-- All attempts are made that the policy asks for, and the last one decides. -/
  | last {failed : Nat} (hwait : r.CanWait outcome) (hall : r.attempts outcome = failed + 1) :
      Settles r outcome (failed + 1) (outcome failed)
  /-- After an attempt another one is due, but for the first time the wait is no length of time. -/
  | breaks {failed : Nat} (hbefore : ∀ k < failed, (r.policy.delay? k).isSome)
      (hleft : failed + 1 < r.attempts outcome) (hnone : r.policy.delay? failed = none) :
      Settles r outcome (failed + 1) (.error r.broken)

/-- Once there are outcomes, something comes of them. -/
theorem exists_settles (r : Repetition Q A ε α) (outcome : Nat → Except ε α) :
    ∃ failed result, r.Settles outcome (failed + 1) result := by
  by_cases hwait : r.CanWait outcome
  · exact ⟨_, _, .last hwait rfl⟩
  · simp only [CanWait, not_forall, Option.not_isSome_iff_eq_none] at hwait
    obtain ⟨k, hleft, hnone⟩ := hwait
    have hexists : ∃ k, r.policy.delay? k = none := ⟨k, hnone⟩
    refine ⟨Nat.find hexists, _, .breaks (fun j hj => ?_) ?_ (Nat.find_spec hexists)⟩
    · exact Option.ne_none_iff_isSome.1 (Nat.find_min hexists hj)
    · exact Nat.lt_of_le_of_lt (Nat.succ_le_succ (Nat.find_min' hexists hnone)) hleft

/-- All attempts but the last have failed for a passing reason. -/
theorem Settles.passes_of_lt {r : Repetition Q A ε α} {outcome : Nat → Except ε α} {failed : Nat}
    {result : Except ε α} (h : r.Settles outcome (failed + 1) result) {k : Nat} (hk : k < failed) :
    passes r.isPassing (outcome k) = true := by
  have hleft : k + 1 < r.attempts outcome := by
    cases h with
    | last _ hall => omega
    | breaks _ hleft _ => omega
  exact (RetryPolicy.lt_attempts_iff.1 hleft).2 k (Nat.le_refl k)

/-- An attempt that brings what comes of them all is the last one. -/
theorem Settles.of_eq_ok {r : Repetition Q A ε α} {outcome : Nat → Except ε α} {failed : Nat}
    {result : Except ε α} (h : r.Settles outcome (failed + 1) result) {a : α}
    (ha : result = .ok a) : outcome failed = .ok a := by
  cases h with
  | last _ _ => exact ha
  | breaks _ _ _ => cases ha

/-- The scripts repeat the attempt, each after some failed ones, and go on with what comes of it. -/
def Repeats (r : Repetition Q A ε α) (tries : Nat → Script Q A γ)
    (leave : Except ε α → Script Q A γ) : Prop :=
  ∀ failed, (tries failed).head = .ask r.attempt fun a =>
    (afterAttempt r.policy r.wait r.isPassing r.broken failed (r.read a)).bind fun
      | .inl failed => tries failed
      | .inr result => leave result

/-- The attempts that are left after some failed ones. -/
def rest (r : Repetition Q A ε α) (failed : Nat) : Script Q A (Except ε α) :=
  .iterate failed (fun _ => r.attempt) fun k a =>
    afterAttempt r.policy r.wait r.isPassing r.broken k (r.read a)

/-- A repetition does as described from its first attempt on. -/
theorem repeats_rest (r : Repetition Q A ε α) : r.Repeats r.rest .done := by
  intro failed
  rw [rest, Script.iterate, Script.head]
  congr 1
  funext a
  congr 1
  funext b
  cases b <;> rfl

section

variable (r : Repetition Q A ε α) (answer : (q : Q) → W → A q × W)

/-- The world before the attempt after `k` failed ones, each of them followed by its wait. -/
def worlds (w : W) (k : Nat) : W :=
  (List.range k).foldl (fun w j => (answer (r.wait (r.policy.delay j)) (answer r.attempt w).2).2) w

/-- Between two attempts there is one wait. -/
theorem worlds_succ (w : W) (k : Nat) :
    r.worlds answer w (k + 1) =
      (answer (r.wait (r.policy.delay k)) (answer r.attempt (r.worlds answer w k)).2).2 := by
  simp [worlds, List.range_succ]

/-- The outcome of the attempt after `k` failed ones. -/
def outcome (w : W) (k : Nat) : Except ε α := r.read (answer r.attempt (r.worlds answer w k)).1

/-- Noting the questions changes no world, and the questions are those of the attempts. -/
theorem worlds_recording (w : W) (log : List Q) (k : Nat) :
    r.worlds (Script.recording answer) (w, log) k = (r.worlds answer w k, log ++ r.course k) := by
  induction k with
  | zero => simp [worlds, course]
  | succ k ih => simp [worlds_succ, ih, Script.recording, course, List.range_succ]

/-- To keep a record does not change the outcomes. -/
theorem outcome_recording (w : W) (log : List Q) :
    r.outcome (Script.recording answer) (w, log) = r.outcome answer w := by
  funext k
  rw [outcome, worlds_recording]
  rfl

end

namespace Repeats

variable {r : Repetition Q A ε α} {tries : Nat → Script Q A γ} {leave : Except ε α → Script Q A γ}
  {answer : (q : Q) → W → A q × W} {failed : Nat} {w w' : W} {c : γ}

/-- After a passing failure and the wait, the next attempt is made. -/
theorem ends_again (h : r.Repeats tries leave)
    (hpassing : passes r.isPassing (r.read (answer r.attempt w).1) = true)
    (hleft : failed + 1 < r.policy.maxAttempts) (hdelay : (r.policy.delay? failed).isSome) :
    Script.Ends answer (tries failed) w c w' ↔
      Script.Ends answer (tries (failed + 1))
        (answer (r.wait (r.policy.delay failed)) (answer r.attempt w).2).2 c w' := by
  rw [Script.ends_of_head_ask (h failed), afterAttempt_of_passing hpassing hleft hdelay]
  exact Script.ends_ask

/-- If one cannot wait, the attempts break down. -/
theorem ends_broken (h : r.Repeats tries leave)
    (hpassing : passes r.isPassing (r.read (answer r.attempt w).1) = true)
    (hleft : failed + 1 < r.policy.maxAttempts) (hnone : r.policy.delay? failed = none) :
    Script.Ends answer (tries failed) w c w' ↔
      Script.Ends answer (leave (.error r.broken)) (answer r.attempt w).2 c w' := by
  rw [Script.ends_of_head_ask (h failed), afterAttempt_of_broken hpassing hleft hnone]
  rfl

/-- Any other outcome is the result. -/
theorem ends_final (h : r.Repeats tries leave)
    (hfinal : ¬ (passes r.isPassing (r.read (answer r.attempt w).1) = true ∧
      failed + 1 < r.policy.maxAttempts)) :
    Script.Ends answer (tries failed) w c w' ↔
      Script.Ends answer (leave (r.read (answer r.attempt w).1)) (answer r.attempt w).2 c w' := by
  rw [Script.ends_of_head_ask (h failed), afterAttempt_of_final hfinal]
  rfl

/-- As long as another attempt is asked for and one can wait, it is made. -/
theorem ends_iff_of_lt (h : r.Repeats tries leave)
    (hleft : failed < r.attempts (r.outcome answer w))
    (hdelay : ∀ k < failed, (r.policy.delay? k).isSome) :
    Script.Ends answer (tries 0) w c w' ↔
      Script.Ends answer (tries failed) (r.worlds answer w failed) c w' := by
  induction failed with
  | zero => rfl
  | succ failed ih =>
    obtain ⟨hallowed, hpassing⟩ := RetryPolicy.lt_attempts_iff.1 hleft
    rw [ih (by omega) fun k hk => hdelay k (by omega),
      h.ends_again (hpassing failed (Nat.le_refl _)) hallowed (hdelay failed (by omega)),
      worlds_succ]

/-- What comes of the outcomes is what a script that repeats the attempt goes on with. -/
theorem ends_iff_of_settles (h : r.Repeats tries leave) {result : Except ε α}
    (hsettles : r.Settles (r.outcome answer w) (failed + 1) result) :
    Script.Ends answer (tries 0) w c w' ↔
      Script.Ends answer (leave result) (answer r.attempt (r.worlds answer w failed)).2 c w' := by
  generalize hn : failed + 1 = n at hsettles
  cases hsettles with
  | last hwait hall =>
    cases hn
    have hmade : failed < r.attempts (r.outcome answer w) := by omega
    rw [h.ends_iff_of_lt hmade fun k hk => hwait k (by omega)]
    exact h.ends_final (RetryPolicy.last_of_attempts_eq hall)
  | breaks hbefore hleft hnone =>
    cases hn
    obtain ⟨hallowed, hpassing⟩ := RetryPolicy.lt_attempts_iff.1 hleft
    rw [h.ends_iff_of_lt (Nat.lt_of_succ_lt hleft) hbefore]
    exact h.ends_broken (hpassing failed (Nat.le_refl _)) hallowed hnone

/-- The same with the questions: the attempt is made so many times, with one wait between each and
the next. -/
theorem ends_recording_iff (h : r.Repeats tries leave) {result : Except ε α}
    (hsettles : r.Settles (r.outcome answer w) (failed + 1) result) {log log' : List Q} :
    Script.Ends (Script.recording answer) (tries 0) (w, log) c (w', log') ↔
      Script.Ends (Script.recording answer) (leave result)
        ((answer r.attempt (r.worlds answer w failed)).2, log ++ r.course failed ++ [r.attempt])
        c (w', log') := by
  rw [h.ends_iff_of_settles ((r.outcome_recording answer w log).symm ▸ hsettles),
    worlds_recording]
  rfl

end Repeats

/-- Whatever the outcomes are, `retry` ends with what comes of them. It makes the attempt so many
times, with one wait between each and the next, and none after the last. -/
theorem ends_script (r : Repetition Q A ε α) (answer : (q : Q) → W → A q × W) (w : W)
    {failed : Nat} {result : Except ε α}
    (hsettles : r.Settles (r.outcome answer w) (failed + 1) result) :
    Script.Ends (Script.recording answer) r.script (w, []) result
      ((answer r.attempt (r.worlds answer w failed)).2, r.course failed ++ [r.attempt]) :=
  (r.repeats_rest.ends_recording_iff hsettles).2 (Script.ends_done.2 ⟨rfl, rfl⟩)

end Repetition

end PolicySync.Http
