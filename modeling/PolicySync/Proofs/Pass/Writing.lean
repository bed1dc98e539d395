import Mathlib.Logic.Function.Basic
import PolicySync.Pass.Tenant
import PolicySync.Proofs.Pass.Pages
import PolicySync.Proofs.Tuple.Remainder

/-!
# Writing a difference

While the batches of a difference are written, each call may succeed, fail or run out of time, and the
pass may be cancelled before any of them; a `Course` says what happens. Whatever it is, the batches go
out in order up to the first one that finds the pass cancelled, the counts of the result add up, and
what is left to change is the difference without the batches that took effect (`ends_writeDiff`).
-/

namespace PolicySync.Pass

open Script (Ends ends_ask)

/-- What becomes of a write call that goes out. One that does not succeed may have been applied all the
same, but never in part. -/
inductive WriteFate where
  | success
  | failure (e : StoreError) (applied : Bool)
  | silence (applied : Bool)

namespace WriteFate

/-- What the pass hears of the call. -/
def verdict : WriteFate → Verdict (Except StoreError Unit)
  | success => .answered (.ok ())
  | failure e _ => .answered (.error e)
  | silence _ => .timedOut

/-- Whether the pass takes the call for failed. -/
def failed : WriteFate → Bool
  | success => false
  | failure _ _ => true
  | silence _ => true

/-- Whether the batch took effect. -/
def applied : WriteFate → Bool
  | success => true
  | failure _ applied => applied
  | silence applied => applied

end WriteFate

/-- A batch that went out to a store, with the time it may take. -/
structure IssuedBatch where
  store : String
  batch : Batch
  limit : Nat

/-- The batches that went out so far, and the tuples of every store. -/
structure Ledger where
  issued : List IssuedBatch := []
  stored : String → TupleSet

/-- A batch goes out, and takes effect or not. -/
def Ledger.issue (l : Ledger) (b : IssuedBatch) (applied : Bool) : Ledger where
  issued := l.issued ++ [b]
  stored :=
    if applied then Function.update l.stored b.store (b.batch.applyTo (l.stored b.store)) else l.stored

/-- What happens while batches are written: what becomes of the call of a number, and whether the pass
turns out to be cancelled before it. -/
structure Course where
  fate : Nat → WriteFate
  cancelled : Nat → Bool

namespace Course

/-- How the calls of a pass that writes are answered. -/
def answer (course : Course) : (q : Request) → Ledger → q.Answer × Ledger
  | .call (.write store batch) limit, l =>
    let n := l.issued.length
    if course.cancelled n then (.cancelled, l)
    else ((course.fate n).verdict, l.issue ⟨store, batch, limit⟩ (course.fate n).applied)
  | .call _ _, l => (.timedOut, l)
  | .publish _, l => ((), l)

/-- How many of some calls fail, from the one of a number on. -/
def failures (course : Course) (n count : Nat) : Nat :=
  (List.range' n count).countP fun i => (course.fate i).failed

/-- The batches that take effect when they go out from a number on. -/
def effective (course : Course) : Nat → List Batch → List Batch
  | _, [] => []
  | n, b :: bs =>
    if (course.fate n).applied then b :: course.effective (n + 1) bs
    else course.effective (n + 1) bs

/-- The ledger after batches went out to a store. -/
def after (course : Course) (store : String) (limit : Nat) (l : Ledger) (bs : List Batch) : Ledger :=
  bs.foldl (fun l b => l.issue ⟨store, b, limit⟩ (course.fate l.issued.length).applied) l

variable (course : Course) (store : String) (limit : Nat)

/-- When the writer is cancelled no batch is issued. -/
theorem answer_of_cancelled {l : Ledger} (h : course.cancelled l.issued.length = true) (b : Batch) :
    course.answer (.call (.write store b) limit) l = (.cancelled, l) :=
  if_pos h

/-- Otherwise the batch is issued and meets its fate. -/
theorem answer_of_not_cancelled {l : Ledger} (h : course.cancelled l.issued.length = false)
    (b : Batch) :
    course.answer (.call (.write store b) limit) l =
      ((course.fate l.issued.length).verdict,
        l.issue ⟨store, b, limit⟩ (course.fate l.issued.length).applied) :=
  if_neg (Bool.eq_false_iff.1 h)

/-- The first of several batches fails or not. -/
theorem failures_succ (n count : Nat) : course.failures n (count + 1) =
    (if (course.fate n).failed then 1 else 0) + course.failures (n + 1) count := by
  rw [failures, List.range'_succ, List.countP_cons, Nat.add_comm, failures]

/-- There are no failures when no batch fails. -/
theorem failures_eq_zero_iff (n count : Nat) :
    course.failures n count = 0 ↔ ∀ i < count, (course.fate (n + i)).failed = false := by
  rw [failures, List.countP_eq_zero]
  simp only [List.mem_range'_1, Bool.not_eq_true]
  constructor
  · exact fun h i hi => h (n + i) ⟨Nat.le_add_right n i, Nat.add_lt_add_left hi n⟩
  · rintro h i ⟨hle, hlt⟩
    have hi := h (i - n) (by omega)
    rwa [Nat.add_sub_cancel' hle] at hi

/-- Only batches that were issued take effect. -/
theorem effective_subset (n : Nat) (bs : List Batch) : course.effective n bs ⊆ bs := by
  induction bs generalizing n with
  | nil => exact List.Subset.refl _
  | cons b bs ih =>
    rw [effective]
    split
    · exact List.cons_subset_cons b (ih (n + 1))
    · exact fun c hc => List.mem_cons_of_mem b (ih (n + 1) hc)

/-- The batches are issued in order. -/
theorem issued_after (l : Ledger) (bs : List Batch) :
    (course.after store limit l bs).issued =
      l.issued ++ bs.map fun b => ⟨store, b, limit⟩ := by
  induction bs generalizing l with
  | nil => simp [after]
  | cons b bs ih =>
    rw [after, List.foldl_cons, ← after, ih, Ledger.issue, List.append_assoc, List.map_cons,
      List.singleton_append]

/-- The store has what the effective ones make of it. -/
theorem stored_after (l : Ledger) (bs : List Batch) :
    (course.after store limit l bs).stored = Function.update l.stored store
      (Batch.applyAll (l.stored store) (course.effective l.issued.length bs)) := by
  induction bs generalizing l with
  | nil => simp [after, effective, Batch.applyAll]
  | cons b bs ih =>
    have hnext : (l.issue ⟨store, b, limit⟩ (course.fate l.issued.length).applied).issued.length =
        l.issued.length + 1 := by
      rw [Ledger.issue, List.length_append, List.length_singleton]
    rw [after, List.foldl_cons, ← after, ih, hnext, effective, Ledger.issue]
    split
    · simp [Batch.applyAll]
    · rfl

end Course

/-- How writing ends when some of the batches that went out failed and others did not go out. -/
def writeResult (tenant : String) (total failed left : Nat) : Except PassError WriteSummary :=
  if failed = 0 then if left = 0 then .ok { batches := total, failed := 0 } else .error .cancelled
  else .error (.batches tenant (failed + left) total)

/-- All is well when no batch failed and none is left. -/
theorem writeResult_eq_ok_iff {tenant : String} {total failed left : Nat} :
    writeResult tenant total failed left = .ok { batches := total, failed := 0 } ↔
      left = 0 ∧ failed = 0 := by
  unfold writeResult
  split
  · split <;> simp [*]
  · simp [*]

/-- It is a mere cancellation when batches are left and none has failed. -/
theorem writeResult_eq_cancelled_iff {tenant : String} {total failed left : Nat} :
    writeResult tenant total failed left = .error .cancelled ↔ left ≠ 0 ∧ failed = 0 := by
  unfold writeResult
  split
  · split <;> simp [*]
  · simp [*]

section Writing

variable (course : Course) (tenant store : String) (limit total : Nat)

/-- The next batch does not go out if the pass is cancelled; otherwise its fate decides whether it
counts as failed, and the rest follows. -/
theorem ends_writeBatches_cons {b : Batch} {bs : List Batch} {failed : Nat} {l l' : Ledger}
    {r : Except PassError WriteSummary} :
    Ends course.answer (writeBatches tenant store limit total (b :: bs) failed) l r l' ↔
      if course.cancelled l.issued.length then
        r = writeResult tenant total failed (bs.length + 1) ∧ l' = l
      else
        Ends course.answer
          (writeBatches tenant store limit total bs
            (failed + if (course.fate l.issued.length).failed then 1 else 0))
          (l.issue ⟨store, b, limit⟩ (course.fate l.issued.length).applied) r l' := by
  rw [writeBatches, ends_ask]
  cases hcancelled : course.cancelled l.issued.length with
  | true =>
    rw [course.answer_of_cancelled store limit hcancelled, if_pos rfl, ends_of, writeResult,
      if_neg (Nat.succ_ne_zero bs.length)]
    split <;> rfl
  | false =>
    rw [course.answer_of_not_cancelled store limit hcancelled, if_neg Bool.false_ne_true]
    cases course.fate l.issued.length <;> rfl

/-- The batches go out up to the first one that finds the pass cancelled. -/
theorem ends_writeBatches (bs : List Batch) (failed : Nat) (l : Ledger) :
    ∃ j ≤ bs.length, (∀ i < j, course.cancelled (l.issued.length + i) = false) ∧
      (j < bs.length → course.cancelled (l.issued.length + j) = true) ∧
      Ends course.answer (writeBatches tenant store limit total bs failed) l
        (writeResult tenant total (failed + course.failures l.issued.length j) (bs.length - j))
        (course.after store limit l (bs.take j)) := by
  induction bs generalizing failed l with
  | nil =>
    refine ⟨0, Nat.le_refl 0, by simp, by simp, ?_⟩
    rw [writeBatches, ends_of]
    refine ⟨?_, rfl⟩
    by_cases hfailed : failed = 0
    · simp [writeResult, Course.failures, hfailed]
    · simp [writeResult, Course.failures, hfailed]
  | cons b bs ih =>
    cases hcancelled : course.cancelled l.issued.length with
    | true =>
      refine ⟨0, Nat.zero_le _, by simp, fun _ => hcancelled, ?_⟩
      rw [ends_writeBatches_cons, if_pos hcancelled]
      exact ⟨rfl, rfl⟩
    | false =>
      have hnext : (l.issue ⟨store, b, limit⟩ (course.fate l.issued.length).applied).issued.length =
          l.issued.length + 1 := by
        rw [Ledger.issue, List.length_append, List.length_singleton]
      obtain ⟨j, hj, hbefore, hthen, hends⟩ :=
        ih (failed + if (course.fate l.issued.length).failed then 1 else 0)
          (l.issue ⟨store, b, limit⟩ (course.fate l.issued.length).applied)
      rw [hnext] at hbefore hthen hends
      -- The rest of the batches begins one call later, so all indices move up by one.
      refine ⟨j + 1, Nat.succ_le_succ hj, fun i hi => ?_, fun hlt => ?_, ?_⟩
      · cases i with
        | zero => exact hcancelled
        | succ i =>
          have hi' := hbefore i (Nat.lt_of_succ_lt_succ hi)
          rwa [Nat.add_assoc, Nat.add_comm 1] at hi'
      · have hthen' := hthen (Nat.lt_of_succ_lt_succ hlt)
        rwa [Nat.add_assoc, Nat.add_comm 1] at hthen'
      · rw [ends_writeBatches_cons, hcancelled, if_neg Bool.false_ne_true]
        rw [Nat.add_assoc, ← Course.failures_succ] at hends
        rw [List.length_cons, Nat.add_sub_add_right]
        exact hends

end Writing

/-- Whatever happens while a difference is written, its batches go out in order up to the first one
that finds the pass cancelled, whether or not others failed before. Writing ends well when all of them
went out and succeeded, and as cancelled when some did not go out and those that did succeeded;
otherwise the failed ones are counted, and with them those that did not go out. What is then left to
change is the difference without the batches that took effect, also if some take effect later. -/
theorem ends_writeDiff (course : Course) (tenant store : String) (d : TupleDiff)
    (batchSize limit : Nat) (stored : String → TupleSet) :
    let plan := d.batches batchSize
    ∃ j ≤ plan.length, ∃ result after,
      Ends course.answer (writeDiff tenant store d batchSize limit) { stored } result after ∧
      after.issued = (plan.take j).map (fun b => ⟨store, b, limit⟩) ∧
      (∀ i < j, course.cancelled i = false) ∧
      (j < plan.length → course.cancelled j = true) ∧
      (result = .ok { batches := plan.length, failed := 0 } ↔
        j = plan.length ∧ ∀ i < j, (course.fate i).failed = false) ∧
      (result = .error .cancelled ↔
        j < plan.length ∧ ∀ i < j, (course.fate i).failed = false) ∧
      ((∃ i < j, (course.fate i).failed = true) → result = .error (.batches tenant
        (course.failures 0 j + (plan.length - j)) plan.length)) ∧
      (∀ other, other ≠ store → after.stored other = stored other) ∧
      ∀ desired : TupleSet, desired.Keyed → d = .between desired (stored store) →
        .between desired (after.stored store) = d.without (course.effective 0 (plan.take j)) ∧
        ∀ took ⊆ plan, .between desired (Batch.applyAll (stored store) took) = d.without took := by
  intro plan
  obtain ⟨j, hj, hbefore, hthen, hends⟩ :=
    ends_writeBatches course tenant store limit plan.length plan 0 { stored }
  simp only [List.length_nil, Nat.zero_add] at hbefore hthen hends
  have hsucceed := course.failures_eq_zero_iff 0 j
  simp only [Nat.zero_add] at hsucceed
  have hleft : plan.length - j = 0 ↔ j = plan.length := by omega
  have hsome : plan.length - j ≠ 0 ↔ j < plan.length := by omega
  have hstored := course.stored_after store limit { stored } (plan.take j)
  refine ⟨j, hj, _, _, hends, course.issued_after store limit { stored } (plan.take j), hbefore, hthen,
    ?_, ?_, ?_, ?_, ?_⟩
  · rw [writeResult_eq_ok_iff, hleft, hsucceed]
  · rw [writeResult_eq_cancelled_iff, hsome, hsucceed]
  · rintro ⟨i, hi, hfailed⟩
    rw [writeResult, if_neg]
    intro hnone
    rw [hsucceed.1 hnone i hi] at hfailed
    cases hfailed
  · intro other hother
    rw [hstored, Function.update_of_ne hother]
  · rintro desired hkeyed rfl
    refine ⟨?_, fun took htook => TupleDiff.between_applyAll hkeyed htook⟩
    rw [hstored, Function.update_self]
    exact TupleDiff.between_applyAll hkeyed
      (List.Subset.trans (course.effective_subset 0 _) (List.take_subset j plan))

/-- Who should be in a team. -/
def wantedMembers : TupleSet := .ofTuples [
  .relate "user:ann" "member" "team:ops",
  .relate "user:bob" "member" "team:ops",
  .relate "user:cat" "member" "team:ops"]

/-- Who is in the team. -/
def storedMembers : TupleSet := .ofTuples [.relate "user:dan" "member" "team:ops"]

/-- The first call takes effect unheard, the second one fails, the third one succeeds, and the pass is
cancelled before the fourth. -/
def interruptedCourse : Course where
  fate n :=
    match n with
    | 0 => .silence true
    | 1 => .failure (.rejected 503 "busy") false
    | _ => .success
  cancelled n := n == 3

/-- Of three additions and a deletion, one of each is left. -/
theorem ends_writeDiff_interrupted :
    ∃ after, Ends interruptedCourse.answer
        (writeDiff "office" "store-001" (.between wantedMembers storedMembers) 1 30000)
        { stored := fun _ => storedMembers } (.error (.batches "office" 3 4)) after ∧
      TupleDiff.between wantedMembers (after.stored "store-001") = {
        additions := [.relate "user:bob" "member" "team:ops"]
        deletions := [⟨"user:dan", "member", "team:ops"⟩] } := by
  have hdiff : TupleDiff.between wantedMembers storedMembers = {
      additions := [.relate "user:ann" "member" "team:ops", .relate "user:bob" "member" "team:ops",
        .relate "user:cat" "member" "team:ops"]
      deletions := [⟨"user:dan", "member", "team:ops"⟩] } := by rfl
  have hplan : (TupleDiff.between wantedMembers storedMembers).batches 1 = [
      { writes := [.relate "user:ann" "member" "team:ops"] },
      { writes := [.relate "user:bob" "member" "team:ops"] },
      { writes := [.relate "user:cat" "member" "team:ops"] },
      { deletes := [⟨"user:dan", "member", "team:ops"⟩] }] := by
    simp [hdiff, TupleDiff.batches, TupleDiff.isEmpty, TupleDiff.size, runsOf]
  obtain ⟨j, hj, result, after, hends, -, hbefore, hthen, -, -, hfail, -, hleft⟩ :=
    ends_writeDiff interruptedCourse "office" "store-001" (.between wantedMembers storedMembers) 1
      30000 fun _ => storedMembers
  rw [hplan] at hthen hfail hleft
  -- Three batches go out.
  have hmost : ¬ 3 < j := fun hlt => absurd (hbefore 3 hlt) (by decide)
  have hleast : ¬ j < 3 := by
    intro hlt
    have hcancelled := hthen (Nat.lt_succ_of_lt hlt)
    have heq : j = 3 := by simpa [interruptedCourse] using hcancelled
    omega
  obtain rfl : j = 3 := by omega
  have hresult : result = .error (.batches "office" 3 4) := hfail ⟨0, by decide, rfl⟩
  refine ⟨after, hresult ▸ hends, ?_⟩
  rw [(hleft wantedMembers (TupleSet.keyed_ofTuples _) rfl).1, hdiff]
  rfl

end PolicySync.Pass
