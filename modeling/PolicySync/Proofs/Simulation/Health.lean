import Mathlib.Order.Bounds.Basic
import PolicySync.Proofs.Simulation.Chronicle

/-!
# Health over histories

The health sums up all passes of the scheduler, of which it keeps the last one and a count. Nothing
but the end of such a pass touches it (`Crowd.Step.health`), so whatever runs and in whatever order,
it is the fold of what the passes came to (`Chronicle.health`), and that says how many of the last
passes in a row have failed (`sumsUp_foldl_note`).
-/

namespace PolicySync

open Simulation

/-! ## What a pass counts as -/

/-- The tenants whose passes have ended and failed, in the order in which they ended. -/
def Fleet.failed {τ : Type u} (f : Fleet τ) : List String :=
  f.ended.filterMap fun o =>
    match o.2 with
    | .ok _ => none
    | .error _ => some o.1

/-- The failures of a report are those of the fleet, in the order of tenants. -/
theorem Fleet.failures_of_report? {τ : Type u} {f : Fleet τ} {report : PassReport}
    (h : f.report? = some report) :
    (report.failures.map (·.tenant)).Perm f.failed ∧
      (report.failures.map (·.tenant)).Pairwise (· ≤ ·) := by
  obtain ⟨-, -, rfl⟩ := of_report?_eq_some h
  constructor
  · refine ((List.mergeSort_perm _ _).map _).trans (.of_eq ?_)
    rw [failed, List.map_filterMap]
    congr 1
    funext o
    cases o.2 <;> rfl
  · exact List.pairwise_map.2 PassReport.sorted_ofOutcomes.2

namespace Simulation

namespace ScheduledPass

/-- Why a pass counts as failed, if it does. -/
def failure? : ScheduledPass → Option String
  | full r => PassReport.failureText? r
  | triggered (.ok _) => none
  | triggered (.error e) => some e.message

/-- A full pass has failed if it could not start or a tenant failed, and that of one tenant if it
returned an error. -/
def Failed : ScheduledPass → Prop
  | full (.error _) => True
  | full (.ok report) => report.failures ≠ []
  | triggered r => ∃ e, r = .error e

/-- A full pass with failures names the tenants. -/
theorem failure?_full_ok {report : PassReport} (h : report.failures ≠ []) :
    (full (.ok report)).failure? =
      some ("tenants failed: " ++ ", ".intercalate (report.failures.map (·.tenant))) := by
  rw [failure?, PassReport.failureText?]
  exact if_neg (mt List.isEmpty_iff.1 h)

/-- A pass has an error just when it counts as failed. -/
theorem isSome_failure?_iff (pass : ScheduledPass) : pass.failure?.isSome = true ↔ pass.Failed := by
  cases pass with
  | full r =>
    cases r with
    | error e => exact iff_of_true rfl trivial
    | ok report =>
      by_cases h : report.failures = []
      · have hnone : (full (.ok report)).failure? = none := if_pos (List.isEmpty_iff.2 h)
        rw [hnone]
        exact iff_of_false Bool.false_ne_true fun hne => hne h
      · exact iff_of_true (by rw [failure?_full_ok h]; rfl) h
  | triggered r =>
    cases r with
    | error e => exact iff_of_true rfl ⟨e, rfl⟩
    | ok report => exact iff_of_false Bool.false_ne_true fun ⟨e, he⟩ => nomatch he

end ScheduledPass

/-! ## The health after a history -/

end Simulation

namespace Health

/-- The health after one more pass of the scheduler. -/
def note (h : Health) (pass : ScheduledPass) : Health :=
  h.record pass.failure?.isNone pass.failure?

/-- The last `n` passes of a history have all failed. -/
def FailedLast (passes : List ScheduledPass) (n : Nat) : Prop :=
  ∃ tail, tail <:+ passes ∧ (∀ pass ∈ tail, pass.Failed) ∧ tail.length = n

/-- A health sums up a history of passes. -/
structure SumsUp (h : Health) (passes : List ScheduledPass) : Prop where
  /-- All passes are counted. -/
  recorded : h.recorded = passes.length
  /-- The last pass is the one that was recorded last. -/
  last : h.last = passes.getLast?.map fun pass =>
    { number := passes.length, succeeded := pass.failure?.isNone, error := pass.failure? }
  /-- The failures are as many as the longest history of failures that ends with the last pass. -/
  failures : IsGreatest {n | FailedLast passes n} h.failures

/-- Without passes none has failed. -/
theorem failedLast_nil {n : Nat} : FailedLast [] n ↔ n = 0 := by
  constructor
  · rintro ⟨tail, hsuffix, -, rfl⟩
    rw [List.suffix_nil.1 hsuffix]
    rfl
  · rintro rfl
    exact ⟨[], List.nil_suffix, fun _ hpass => absurd hpass List.not_mem_nil, rfl⟩

/-- One more pass ends the failures in a row or makes them one more. -/
theorem failedLast_concat {passes : List ScheduledPass} {pass : ScheduledPass} {n : Nat} :
    FailedLast (passes ++ [pass]) n ↔
      n = 0 ∨ pass.Failed ∧ ∃ m, FailedLast passes m ∧ n = m + 1 := by
  constructor
  · rintro ⟨tail, hsuffix, hfailed, rfl⟩
    rcases List.suffix_concat_iff.1 hsuffix with rfl | ⟨t, rfl, ht⟩
    · exact .inl rfl
    · rw [List.forall_mem_append, List.forall_mem_singleton] at hfailed
      exact .inr ⟨hfailed.2, t.length, ⟨t, ht, hfailed.1, rfl⟩, by simp⟩
  · rintro (rfl | ⟨hpass, m, ⟨t, ht, hfailed, rfl⟩, rfl⟩)
    · exact ⟨[], List.nil_suffix, fun _ hpass => absurd hpass List.not_mem_nil, rfl⟩
    · refine ⟨t ++ [pass], List.suffix_concat_iff.2 (.inr ⟨t, by simp, ht⟩), ?_, by simp⟩
      exact List.forall_mem_append.2 ⟨hfailed, List.forall_mem_singleton.2 hpass⟩

/-- Recording one more pass sums it up with the others. -/
theorem SumsUp.note {h : Health} {passes : List ScheduledPass} (hsums : h.SumsUp passes)
    (pass : ScheduledPass) : (h.note pass).SumsUp (passes ++ [pass]) where
  recorded := by
    rw [Health.note, record, hsums.recorded, List.length_append]
    rfl
  last := by
    rw [Health.note, record, hsums.recorded, List.getLast?_concat, List.length_append]
    rfl
  failures := by
    obtain ⟨hreached, hmost⟩ := hsums.failures
    have hfailures : (h.note pass).failures = if pass.failure?.isNone then 0 else h.failures + 1 :=
      rfl
    have hisSome := pass.isSome_failure?_iff
    -- A failure makes the longest history of failures one longer, and a success ends it.
    by_cases hfailed : pass.Failed
    · obtain ⟨text, htext⟩ := Option.isSome_iff_exists.1 (hisSome.2 hfailed)
      rw [hfailures, htext, Option.isNone_some, if_neg Bool.false_ne_true]
      refine ⟨failedLast_concat.2 (.inr ⟨hfailed, _, hreached, rfl⟩), fun n hn => ?_⟩
      rcases failedLast_concat.1 hn with rfl | ⟨-, m, hm, rfl⟩
      · exact Nat.zero_le _
      · exact Nat.succ_le_succ (hmost hm)
    · rw [hfailures, Option.not_isSome_iff_eq_none.1 (mt hisSome.1 hfailed), Option.isNone_none,
        if_pos rfl]
      refine ⟨failedLast_concat.2 (.inl rfl), fun n hn => ?_⟩
      rcases failedLast_concat.1 hn with rfl | ⟨hfailed', -⟩
      · exact le_rfl
      · exact absurd hfailed' hfailed

/-- The health after any history sums it up. -/
theorem sumsUp_foldl_note (passes : List ScheduledPass) :
    (passes.foldl note {}).SumsUp passes := by
  induction passes using List.reverseRecOn with
  | nil =>
    refine ⟨rfl, rfl, failedLast_nil.2 rfl, fun n hn => ?_⟩
    exact (failedLast_nil.1 hn).le
  | append_singleton passes pass ih =>
    rw [List.foldl_append]
    exact ih.note pass

/-- The status by the number of failures in a row. -/
theorem status_eq (h : Health) :
    (h.status = .healthy ↔ h.failures = 0) ∧
      (h.status = .degraded ↔ h.failures = 1 ∨ h.failures = 2) ∧
      (h.status = .unhealthy ↔ 3 ≤ h.failures) := by
  unfold status HealthStatus.ofFailures
  split
  · simp_all
  · split <;> simp <;> omega

end Health

/-! ## Who touches the health -/

namespace Simulation

variable {w w' : World}

/-- From an outcome one can tell the result that it shows. -/
theorem Outcome.ofExcept_inj {α : Type} {f : α → Outcome} (hf : f.Injective)
    (herror : ∀ a e, f a ≠ .passError e) {r r' : Except PassError α}
    (h : Outcome.ofExcept f r = Outcome.ofExcept f r') : r = r' := by
  cases r with
  | ok a => cases r' with
    | ok a' => exact congrArg _ (hf h)
    | error e => exact absurd h (herror a e)
  | error e => cases r' with
    | ok a' => exact absurd h.symm (herror a' e)
    | error e' => exact congrArg _ (Outcome.passError.inj h)

/-- What ends as a pass of the scheduler is one, and it is recorded with its result. -/
theorem Job.Ends.of_takes {j : Job} {pass : ScheduledPass} (hends : j.Ends w w' pass.outcome)
    (hjob : j.Takes pass) :
    (∃ r w₁, pass = .triggered r ∧ w.Leaves w₁ ∧ w' = w₁.recordTriggered r) ∨
    ∃ p r w₁, pass = .full r ∧ FullPass.Ends .scheduler w p w₁ r ∧ w' = w₁.recordFull r := by
  -- The outcome tells whether the pass was triggered or full.
  generalize houtcome : pass.outcome = outcome at hends
  cases hends with
  | single hmove => exact hjob.elim
  | triggered hmove =>
    cases pass with
    | full r => exact hjob.elim
    | triggered r =>
      obtain rfl := Outcome.ofExcept_inj (fun _ _ => Outcome.report.inj) nofun houtcome
      exact .inl ⟨r, _, rfl, Strand.leaves_of_ended hmove, rfl⟩
  | @full _ party p _ hends =>
    cases pass with
    | triggered r => exact False.elim (by cases party <;> exact hjob)
    | full r =>
      obtain rfl := Outcome.ofExcept_inj (fun _ _ => Outcome.pass.inj) nofun houtcome
      cases party with
      | caller => exact hjob.elim
      | scheduler => exact .inr ⟨p, r, _, rfl, hends, rfl⟩

/-- The end of a pass of the scheduler is noted in the health. -/
theorem Job.Ends.note {j : Job} {pass : ScheduledPass} (hends : j.Ends w w' pass.outcome)
    (hjob : j.Takes pass) : w'.health = w.health.note pass := by
  rcases hends.of_takes hjob with ⟨r, w₁, rfl, hleaves, rfl⟩ | ⟨p, r, w₁, rfl, hfull, rfl⟩
  · rw [← hleaves.health]
    cases r <;> rfl
  · rw [← hfull.leaves.health]
    rfl

/-- A full pass has a report when the passes of its fleet have all ended. -/
theorem Job.Ends.exists_fleet {j : Job} {report : PassReport}
    (hends : j.Ends w w' (ScheduledPass.full (.ok report)).outcome)
    (hjob : j.Takes (.full (.ok report))) :
    ∃ fleet : Fleet (Strand (Except PassError TenantReport)), fleet.report? = some report := by
  rcases hends.of_takes hjob with ⟨r, w₁, hpass, -⟩ | ⟨p, r, w₁, hpass, hfull, -⟩
  · cases hpass
  · cases hpass
    cases hfull with
    | reported hreport => exact ⟨_, hreport⟩

/-- The end of any other job leaves the health as it is. -/
theorem Job.Ends.health {j : Job} {outcome : Outcome} (hends : j.Ends w w' outcome)
    (hjob : j.isScheduled = false) : w'.health = w.health := by
  cases hends with
  | single hmove => exact (Strand.leaves_of_ended hmove).health
  | triggered hmove => cases hjob
  | full hends =>
    rw [if_neg (of_decide_eq_false hjob)]
    exact hends.leaves.health

/-- A runner that goes on records nothing. -/
theorem Runner.Goes.health {r r' : Runner} {log : List Happening} (h : r.Goes w log w' r') :
    w'.health = (Happening.passes log).foldl Health.note w.health := by
  cases h with
  | build hgoes _ => exact hgoes.health
  | succeed hgoes _ => exact hgoes.health
  | goOn hgoes => exact hgoes.health

/-- At its end the pass that it notes is recorded, if it notes one. -/
theorem Runner.Ends.health {r : Runner} {log : List Happening} (h : r.Ends w log w') :
    w'.health = (Happening.passes log).foldl Health.note w.health := by
  cases h with
  | unnoted hends hjob => exact Job.Ends.health hends hjob
  | noted hends hjob => exact Job.Ends.note hends hjob

variable {c c' : Crowd} {log : List Happening}

/-- Whoever goes on, the health is that of the passes that end. -/
theorem Crowd.Step.health (h : c.Step log c') :
    c'.world.health = (Happening.passes log).foldl Health.note c.world.health := by
  cases h with
  | join before after hfresh => rfl
  | go hgoes => exact hgoes.health
  | leave hends => exact hends.health
  | beside hleaves => exact hleaves.health

/-- The health is the fold of the passes that were recorded. -/
theorem Chronicle.health (h : Chronicle c log c') :
    c'.world.health = (Happening.passes log).foldl Health.note c.world.health := by
  induction h with
  | refl => rfl
  | tail _ hstep ih => rw [hstep.health, ih, Happening.passes_append, List.foldl_append]

/-- A full pass that was recorded with a report is one of a fleet whose passes have all ended. -/
theorem Chronicle.exists_fleet (h : Chronicle c log c') {report : PassReport}
    (hmem : .full (.ok report) ∈ Happening.passes log) :
    ∃ fleet : Fleet (Strand (Except PassError TenantReport)), fleet.report? = some report := by
  induction h with
  | refl => cases hmem
  | tail _ hstep ih =>
    rw [Happening.passes_append, List.mem_append] at hmem
    refine hmem.elim ih fun hmem => ?_
    cases hstep with
    | join before after hfresh => cases hmem
    | go hgoes => cases hgoes <;> cases hmem
    | leave hends =>
      cases hends with
      | unnoted hends hjob => cases hmem
      | noted hends hjob =>
        obtain rfl := List.mem_singleton.1 hmem
        exact Job.Ends.exists_fleet hends hjob
    | beside hleaves => cases hmem

/-- The health sums up the passes of the scheduler in the order in which they have come to their
end, those that were asked for and those that were due alike: it tells the last one and how many in
a row have failed up to it, and the status follows from their number, which is one of 32 bits unless
more fail in a row than that. A full pass counts as failed if it could not start, and then the error
is that of the start, or if tenants have failed, and then the error names these in order; a pass of
one tenant counts as failed if it returned an error. -/
theorem health_sumsUp {runners : List Runner} (hnew : w.health = {})
    (h : Chronicle ⟨w, runners⟩ log c) :
    c.world.health.SumsUp (Happening.passes log) ∧
    ((c.world.health.status = .healthy ↔ c.world.health.failures = 0) ∧
      (c.world.health.status = .degraded ↔
        c.world.health.failures = 1 ∨ c.world.health.failures = 2) ∧
      (c.world.health.status = .unhealthy ↔ 3 ≤ c.world.health.failures)) ∧
    ((∀ n, Health.FailedLast (Happening.passes log) n → n < UInt32.size) →
      c.world.health.failures < UInt32.size) ∧
    (∀ pass : ScheduledPass, pass.failure?.isSome = true ↔ pass.Failed) ∧
    (∀ e : PassError, (ScheduledPass.full (.error e)).failure? = some e.message ∧
      (ScheduledPass.triggered (.error e)).failure? = some e.message) ∧
    ∀ report : PassReport, .full (.ok report) ∈ Happening.passes log →
      (report.failures ≠ [] → (ScheduledPass.full (.ok report)).failure? =
        some ("tenants failed: " ++ ", ".intercalate (report.failures.map (·.tenant)))) ∧
      (report.failures.map (·.tenant)).Pairwise (· ≤ ·) ∧
      ∃ fleet : Fleet (Strand (Except PassError TenantReport)),
        fleet.report? = some report ∧ (report.failures.map (·.tenant)).Perm fleet.failed := by
  have hsums : c.world.health.SumsUp (Happening.passes log) := by
    rw [h.health, hnew]
    exact Health.sumsUp_foldl_note _
  refine ⟨hsums, Health.status_eq _, fun hfew => hfew _ hsums.failures.1,
    ScheduledPass.isSome_failure?_iff, fun e => ⟨rfl, rfl⟩, fun report hmem => ?_⟩
  obtain ⟨fleet, hreport⟩ := h.exists_fleet hmem
  obtain ⟨hperm, hsorted⟩ := Fleet.failures_of_report? hreport
  exact ⟨ScheduledPass.failure?_full_ok, hsorted, fleet, hreport, hperm⟩

/-- The office on a day when the first listing fails, and then the store of its tenant. -/
def unluckyOffice : World where
  faults := [(.list, 1, { error := some (.listBackend "away") }),
    (.openStore, 1, { error := some (.store (.notFound "north")) })]
  lister := Memory.Backends.office.lister
  store := Memory.Backends.office.store

/-- A pass of the tenant and a full one on such a day. -/
def unluckyCourse : Course := (Course.start unluckyOffice [.trigger "north", .runOnce]).run 40

/-- Both passes of such a day fail, the second with the name of the tenant. -/
theorem health_sumsUp_unlucky : unluckyCourse.isOver = true ∧
    ∃ log c, Chronicle ⟨unluckyOffice, []⟩ log c ∧ c.world = unluckyCourse.world ∧
      IsGreatest {n | Health.FailedLast (Happening.passes log) n} 2 ∧
      unluckyCourse.world.health.status = .degraded ∧
      unluckyCourse.world.health.last = some
        { number := 2, succeeded := false, error := some "tenants failed: north" } := by
  refine ⟨by decide +kernel, ?_⟩
  obtain ⟨log, c, hlog, hshows⟩ := Course.exists_chronicle
    (Course.steps_run 40 (Course.start unluckyOffice [.trigger "north", .runOnce]))
  obtain ⟨hsums, ⟨-, hdegraded, -⟩, -⟩ := health_sumsUp rfl hlog
  have hfailures : c.world.health.failures = 2 := by
    rw [hshows.world]
    decide +kernel
  have hgreatest := hsums.failures
  rw [hfailures] at hgreatest
  refine ⟨log, c, hlog, hshows.world, hgreatest, ?_, by decide +kernel⟩
  have hstatus := hdegraded.2 (.inr hfailures)
  rwa [hshows.world] at hstatus

end Simulation

end PolicySync
