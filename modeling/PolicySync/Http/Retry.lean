import PolicySync.Script

/-!
# Retries

An attempt that fails for a passing reason is made again after a wait, up to a number of attempts.
The waits grow by a factor up to a limit. `retry` is the script of that: it asks the question of
the attempt, and a question to wait between two attempts. Whatever the factor is, it is taken as it
is, so what is computed for a wait may be no length of time. Then one cannot wait, and the attempts
break down.
-/

namespace PolicySync.Http

/-- How failed attempts are repeated. Times are in nanoseconds. -/
structure RetryPolicy where
  /-- How many attempts are made at most; the first is made in any case. -/
  maxAttempts : Nat := 3
  baseDelay : Nat := 200000000
  maxDelay : Nat := 5000000000
  factor : Float := 2
  /-- Whether a wait varies at random by up to half its length. -/
  jitter : Bool := true
  /-- The random part of the wait after so many failed attempts and one more, from zero up to one. -/
  chance : Nat → Float := fun _ => 0.5
  deriving Inhabited

namespace RetryPolicy

/-- One attempt and no more. -/
def none : RetryPolicy := { maxAttempts := 1 }

/-- The `n`th power of `a`, times `r`, by squaring. -/
def power (r a : Float) (n : Nat) : Float :=
  let r := if n % 2 = 1 then r * a else r
  if n < 2 then r else power r (a * a) (n / 2)
termination_by n

/-- The power of `a` to `n` taken as a number of 32 bits with a sign. -/
def signedPower (a : Float) (n : Nat) : Float :=
  let n := n % Nat.pow 2 32
  if n < Nat.pow 2 31 then power 1 a n else 1 / power 1 a (Nat.pow 2 32 - n)

/-- Nanoseconds in seconds. -/
def secondsOf (nanoseconds : Nat) : Float :=
  Float.ofNat (nanoseconds / 1000000000) + Float.ofNat (nanoseconds % 1000000000) / 1000000000

/-- The quotient rounded to the nearest whole number, and to the even one of two. -/
def roundedQuotient (m n : Nat) : Nat :=
  let q := m / n
  let r := 2 * (m % n)
  if r < n ∨ (r = n ∧ q % 2 = 0) then q else q + 1

/-- Seconds as whole nanoseconds, to the nearest, for a finite length of time. -/
def nanosecondsOf (seconds : Float) : Nat :=
  let bits := seconds.toBits.toNat
  let unit := Nat.pow 2 52
  let e := bits / unit % 2048
  let fraction := bits % unit
  if Nat.pow 2 63 ≤ bits ∨ e = 2047 then 0
  else
    let m := if e = 0 then fraction else fraction + unit
    roundedQuotient (m * 1000000000 * Nat.pow 2 (e - 1)) (Nat.pow 2 1074)

/-- The milliseconds to wait after `k + 1` failed attempts: whole ones, so a wait is never shorter
than it should be. There are none if what is computed is no length of time, which is less than zero
or from `2 ^ 64` seconds on. -/
def delay? (p : RetryPolicy) (k : Nat) : Option Nat :=
  let exponential := secondsOf p.baseDelay * signedPower p.factor k
  let limit := secondsOf p.maxDelay
  let capped := if exponential < limit then exponential else limit
  let seconds := if p.jitter then capped * (0.5 + p.chance k) else capped
  if 0 ≤ seconds ∧ seconds < 18446744073709551616 then
    some ((nanosecondsOf seconds + 999999) / 1000000)
  else Option.none

end RetryPolicy

section

variable {Q : Type} {A : Q → Type} {α ε : Type}

/-- What follows the result of an attempt after `k` failed ones: it is returned, or after a wait
the next attempt is due, before which `k + 1` have failed. If the wait is no length of time, the
attempts have broken down. -/
def afterAttempt (p : RetryPolicy) (wait : Nat → Q) (isPassing : ε → Bool) (broken : ε) (k : Nat)
    (result : Except ε α) : Script Q A (Nat ⊕ Except ε α) :=
  match result with
  | .ok a => .done (.inr (.ok a))
  | .error e =>
    if isPassing e && k + 1 < p.maxAttempts then
      match p.delay? k with
      | some milliseconds => .ask (wait milliseconds) fun _ => .done (.inl (k + 1))
      | none => .done (.inr (.error broken))
    else .done (.inr (.error e))

/-- Attempts until one succeeds, fails for good, or is the last one. -/
def retry (p : RetryPolicy) (attempt : Q) (wait : Nat → Q) (read : A attempt → Except ε α)
    (isPassing : ε → Bool) (broken : ε) : Script Q A (Except ε α) :=
  .iterate 0 (fun _ => attempt) fun k answer =>
    afterAttempt p wait isPassing broken k (read answer)

end

end PolicySync.Http
