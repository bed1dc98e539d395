import Mathlib.Data.String.Basic
import Mathlib.Logic.Relation
import PolicySync.Pass.Fleet
import PolicySync.Proofs.Pass.Survey

/-!
# Fleets of passes

A fleet takes turns: some running pass goes on, or it ends and makes room for the next tenant.
`Fleet.Turn` leaves open which one it is and what a pass is in the midst of. No turn loses a tenant
or doubles one, so the report that there is in the end lists every tenant as often as the fleet was
given it, in one of two lists that are in the order of names (`PassReport.names_ofOutcomes`).
-/

namespace PolicySync

open Relation (ReflTransGen)

namespace Fleet

variable {τ : Type u} {W : Type v} {start : String → τ} {f f' : Fleet τ} {i : Nat} {tenant : String}
  {state state' : τ} {result : Except PassError TenantReport} {w w' : W}

/-- The tenants whose passes have ended, run or wait. -/
def names (f : Fleet τ) : List String :=
  f.ended.map (·.1) ++ (f.running.map (·.1) ++ f.waiting)

/-- Starting passes loses no name. -/
theorem names_fill (start : String → τ) (f : Fleet τ) : (f.fill start).names = f.names := by
  simp only [names, fill, List.map_append, List.map_map, List.append_assoc]
  congr 2
  show (f.waiting.take _).map id ++ f.waiting.drop _ = f.waiting
  rw [List.map_id, List.take_append_drop]

/-- At the start all names wait. -/
theorem names_launch (start : String → τ) (width : Nat) (tenants : List String) :
    (launch start width tenants).names = tenants :=
  names_fill start _

/-- A pass that goes on keeps its name. -/
theorem names_advance (f : Fleet τ) (i : Nat) (state : τ) :
    (f.advance i state).names = f.names := by
  have hrunning : (f.running.modify i fun e => (e.1, state)).map (·.1) = f.running.map (·.1) := by
    refine List.ext_getElem? fun j => ?_
    rw [List.getElem?_map, List.getElem?_modify, List.getElem?_map]
    by_cases hij : i = j
    · simp only [hij, if_true, Option.map_eq_map, Option.map_map]
      rfl
    · simp [hij]
  simp only [names, advance, hrunning]

/-- After a pass has ended, its result has been added, and others may have been started. -/
theorem finish_eq (start : String → τ) (hi : f.running[i]? = some (tenant, state))
    (result : Except PassError TenantReport) :
    f.finish start i result = fill start { f with
      running := f.running.eraseIdx i, ended := f.ended ++ [(tenant, result)] } := by
  rw [finish, hi]

/-- A pass that has ended keeps it too, among the outcomes. -/
theorem names_finish (start : String → τ) (hi : f.running[i]? = some (tenant, state))
    (result : Except PassError TenantReport) :
    (f.finish start i result).names.Perm f.names := by
  obtain ⟨hlt, hget⟩ := List.getElem?_eq_some_iff.1 hi
  have hrunning : ((tenant, state) :: f.running.eraseIdx i).Perm f.running :=
    hget ▸ List.getElem_cons_eraseIdx_perm hlt
  have hnames := (hrunning.map (·.1)).append_right f.waiting
  rw [finish_eq start hi, names_fill]
  simp only [names, List.map_append, List.append_assoc]
  exact hnames.append_left _

/-- One turn of a fleet: a running pass goes on, or it ends and makes room for others. -/
inductive Turn (goes : String → W → τ → W → τ → Prop)
    (ends : String → W → τ → W → Except PassError TenantReport → Prop) (start : String → τ) :
    W × Fleet τ → W × Fleet τ → Prop where
  | advance {w w' : W} {f : Fleet τ} {i : Nat} {tenant : String} {state state' : τ}
      (hi : f.running[i]? = some (tenant, state)) (h : goes tenant w state w' state') :
      Turn goes ends start (w, f) (w', f.advance i state')
  | finish {w w' : W} {f : Fleet τ} {i : Nat} {tenant : String} {state : τ}
      {result : Except PassError TenantReport} (hi : f.running[i]? = some (tenant, state))
      (h : ends tenant w state w' result) :
      Turn goes ends start (w, f) (w', f.finish start i result)

/-- The pass of a tenant goes on when its next question is answered. -/
def Answered (answers : String → W → (q : Request) → q.Answer → W → Prop) (tenant : String) (w : W)
    (p : Pass TenantReport) (w' : W) (p' : Pass TenantReport) : Prop :=
  ∃ q next a, p.head = .ask q next ∧ answers tenant w q a w' ∧ p' = next a

/-- The pass of a tenant has come to its end. -/
def Over (_ : String) (w : W) (p : Pass TenantReport) (w' : W)
    (result : Except PassError TenantReport) : Prop :=
  p.head = .done result ∧ w' = w

variable {goes : String → W → τ → W → τ → Prop}
  {ends : String → W → τ → W → Except PassError TenantReport → Prop} {c c' : W × Fleet τ}

/-- Turns keep the tenants. -/
theorem names_of_turns (h : ReflTransGen (Turn goes ends start) c c') :
    c'.2.names.Perm c.2.names := by
  induction h with
  | refl => exact .refl _
  | tail _ hturn ih =>
    cases hturn with
    | advance hi h => exact (names_advance _ _ _).symm ▸ ih
    | finish hi h => exact (names_finish start hi _).trans ih

/-- A pass that runs after others were started ran before, or is at its start. -/
theorem of_mem_running_fill {e : String × τ} (h : e ∈ (f.fill start).running) :
    e ∈ f.running ∨ e.1 ∈ f.waiting ∧ e.2 = start e.1 := by
  rcases List.mem_append.1 h with h | h
  · exact .inl h
  · obtain ⟨t, ht, rfl⟩ := List.mem_map.1 h
    exact .inr ⟨List.mem_of_mem_take ht, rfl⟩

/-- A pass that runs after a turn is the one that went on, or another one that ran before. -/
theorem of_mem_running_advance {e : String × τ} (hi : f.running[i]? = some (tenant, state))
    (h : e ∈ (f.advance i state').running) :
    e = (tenant, state') ∨ ∃ j ≠ i, f.running[j]? = some e := by
  obtain ⟨j, hj⟩ := List.mem_iff_getElem?.1 h
  rw [advance, List.getElem?_modify] at hj
  by_cases hij : i = j
  · subst hij
    rw [hi] at hj
    simp only [if_true, Option.map_eq_map, Option.map_some, Option.some.injEq] at hj
    exact .inl hj.symm
  · simp only [if_neg hij, id_map'] at hj
    exact .inr ⟨j, Ne.symm hij, hj⟩

/-- Tenants that are listed once have one pass each. -/
theorem ne_of_nodup_names (h : f.names.Nodup) (hi : f.running[i]? = some (tenant, state)) :
    (∀ o ∈ f.ended, o.1 ≠ tenant) ∧ (∀ t ∈ f.waiting, t ≠ tenant) ∧
      ∀ j ≠ i, ∀ e, f.running[j]? = some e → e.1 ≠ tenant := by
  have hmem : tenant ∈ f.running.map (·.1) := List.mem_map.2 ⟨_, List.mem_of_getElem? hi, rfl⟩
  obtain ⟨-, hrest, hended⟩ := List.nodup_append.1 h
  obtain ⟨hrunning, -, hwaiting⟩ := List.nodup_append.1 hrest
  refine ⟨?_, ?_, ?_⟩
  · exact fun o ho => hended _ (List.mem_map_of_mem ho) _ (List.mem_append_left _ hmem)
  · exact fun t ht => (hwaiting _ hmem t ht).symm
  · rintro j hj e he rfl
    have hi' : (f.running.map (·.1))[i]? = some e.1 := by rw [List.getElem?_map, hi]; rfl
    have hj' : (f.running.map (·.1))[j]? = some e.1 := by rw [List.getElem?_map, he]; rfl
    obtain ⟨hlt, -⟩ := List.getElem?_eq_some_iff.1 hj'
    exact hj ((List.getElem?_inj hlt hrunning).1 (hj'.trans hi'.symm))

/-- What holds of passes at their start and is kept by their turns holds of all that run, and of all
results that it leads to. -/
theorem forall_of_turns {P : String → τ → Prop} {R : String → Except PassError TenantReport → Prop}
    (hstart : ∀ t, P t (start t))
    (hgoes : ∀ {t w s w' s'}, P t s → goes t w s w' s' → P t s')
    (hends : ∀ {t w s w' r}, P t s → ends t w s w' r → R t r)
    (h : ReflTransGen (Turn goes ends start) c c')
    (hc : (∀ e ∈ c.2.running, P e.1 e.2) ∧ ∀ o ∈ c.2.ended, R o.1 o.2) :
    (∀ e ∈ c'.2.running, P e.1 e.2) ∧ ∀ o ∈ c'.2.ended, R o.1 o.2 := by
  induction h with
  | refl => exact hc
  | tail _ hturn ih =>
    cases hturn with
    | @advance w w' f i t s s' hi hgo =>
      refine ⟨fun e he => ?_, ih.2⟩
      rcases of_mem_running_advance hi he with rfl | ⟨j, -, hj⟩
      · exact hgoes (ih.1 (t, s) (List.mem_of_getElem? hi)) hgo
      · exact ih.1 e (List.mem_of_getElem? hj)
    | @finish w w' f i t s r hi hend =>
      rw [finish_eq start hi]
      constructor
      · intro e he
        rcases of_mem_running_fill he with he | ⟨-, hs⟩
        · exact ih.1 e (List.mem_of_mem_eraseIdx he)
        · exact hs ▸ hstart e.1
      · intro o ho
        rcases List.mem_append.1 ho with ho | ho
        · exact ih.2 o ho
        · obtain rfl := List.mem_singleton.1 ho
          exact hends (ih.1 (t, s) (List.mem_of_getElem? hi)) hend

/-- No tenant waits while nothing runs. -/
structure Staffed (f : Fleet τ) : Prop where
  width : 0 < f.width
  idle : f.running = [] → f.waiting = []

/-- After starting as many as may run, somebody runs unless all is done. -/
theorem staffed_fill (start : String → τ) (h : 0 < f.width) : (f.fill start).Staffed := by
  refine ⟨h, fun hidle => ?_⟩
  obtain ⟨hrunning, hstarted⟩ := List.append_eq_nil_iff.1 hidle
  rw [List.map_eq_nil_iff, hrunning, List.length_nil, Nat.sub_zero, List.take_eq_nil_iff] at hstarted
  show f.waiting.drop _ = []
  rcases hstarted with hzero | hwaiting
  · exact absurd hzero (Nat.pos_iff_ne_zero.1 h)
  · rw [hwaiting, List.drop_nil]

/-- A fleet that was launched is staffed, whatever its width. -/
theorem staffed_of_turns {width : Nat} {tenants : List String}
    (h : ReflTransGen (Turn goes ends start) (w, launch start width tenants) c) : c.2.Staffed := by
  induction h with
  | refl => exact staffed_fill start (Nat.lt_of_lt_of_le Nat.zero_lt_one (Nat.le_max_right _ _))
  | tail _ hturn ih =>
    cases hturn with
    | advance hi h =>
      refine ⟨ih.width, fun hidle => ih.idle (List.eq_nil_of_length_eq_zero ?_)⟩
      have hlength := congrArg List.length hidle
      rwa [advance, List.length_modify] at hlength
    | finish hi h =>
      rw [finish_eq start hi]
      exact staffed_fill start ih.width

/-- Until there is a report, a pass of a staffed fleet runs. -/
theorem Staffed.exists_running (h : f.Staffed) (hreport : f.report? = none) :
    ∃ tenant state, f.running[0]? = some (tenant, state) := by
  cases hrunning : f.running with
  | nil =>
    rw [report?, hrunning, h.idle hrunning] at hreport
    cases hreport
  | cons e rest => exact ⟨e.1, e.2, rfl⟩

/-- A report is that on all passes, none of which waits or runs. -/
theorem of_report?_eq_some {report : PassReport} (h : f.report? = some report) :
    f.running = [] ∧ f.waiting = [] ∧ report = .ofOutcomes f.ended := by
  unfold report? at h
  split at h
  · next hover =>
    rw [Bool.and_eq_true, List.isEmpty_iff, List.isEmpty_iff] at hover
    cases h
    exact ⟨hover.1, hover.2, rfl⟩
  · cases h

/-- With the report, the passes of all tenants have ended. -/
theorem ended_of_turns {width : Nat} {tenants : List String} {report : PassReport}
    (h : ReflTransGen (Turn goes ends start) (w, launch start width tenants) c)
    (hreport : c.2.report? = some report) : (c.2.ended.map (·.1)).Perm tenants := by
  obtain ⟨hrunning, hwaiting, -⟩ := of_report?_eq_some hreport
  have hnames := names_of_turns h
  simp only [names_launch] at hnames
  rwa [names, hrunning, hwaiting, List.map_nil, List.append_nil, List.append_nil] at hnames

end Fleet

/-! ## Reports -/

namespace PassReport

variable {outcomes : List (String × Except PassError TenantReport)}

/-- Every outcome is listed once, under the name of its tenant. -/
theorem names_ofOutcomes (h : ∀ o ∈ outcomes, ∀ r, o.2 = .ok r → r.tenant = o.1) :
    ((ofOutcomes outcomes).tenants.map (·.tenant) ++
      (ofOutcomes outcomes).failures.map (·.tenant)).Perm (outcomes.map (·.1)) := by
  -- The order plays no part.
  refine (((List.mergeSort_perm _ _).map _).append ((List.mergeSort_perm _ _).map _)).trans ?_
  induction outcomes with
  | nil => exact .refl _
  | cons o os ih =>
    obtain ⟨tenant, result⟩ := o
    rw [List.forall_mem_cons] at h
    have hrest := ih h.2
    cases result with
    | ok r =>
      have hname : r.tenant = tenant := h.1 r rfl
      simpa [Except.toOption, hname] using hrest.cons tenant
    | error e =>
      simp only [List.filterMap_cons, Except.toOption, List.map_cons]
      exact List.perm_middle.trans (hrest.cons tenant)

/-- Both lists of a report are in the order of names. -/
theorem sorted_ofOutcomes :
    (ofOutcomes outcomes).tenants.Pairwise (fun a b => a.tenant ≤ b.tenant) ∧
      (ofOutcomes outcomes).failures.Pairwise (fun a b => a.tenant ≤ b.tenant) := by
  have hsorted : ∀ {α : Type} (name : α → String) (xs : List α),
      (xs.mergeSort fun a b => decide (name a ≤ name b)).Pairwise
        fun a b => name a ≤ name b := by
    intro α name xs
    refine (List.pairwise_mergeSort ?_ ?_ xs).imp of_decide_eq_true
    · intro a b c hab hbc
      exact decide_eq_true (le_trans (of_decide_eq_true hab) (of_decide_eq_true hbc))
    · intro a b
      simpa using le_total (name a) (name b)
  exact ⟨hsorted _ _, hsorted _ _⟩

/-- No tenant is listed as failed just when every pass has succeeded. -/
theorem isSuccess_ofOutcomes :
    (ofOutcomes outcomes).isSuccess = true ↔ ∀ o ∈ outcomes, ∃ r, o.2 = .ok r := by
  rw [isSuccess, List.isEmpty_iff, ← List.length_eq_zero_iff, ofOutcomes, List.length_mergeSort,
    List.length_eq_zero_iff, List.filterMap_eq_nil_iff]
  refine forall₂_congr fun o _ => ?_
  cases o.2 with
  | ok r => simp
  | error e => simp

/-- A pass that ended well is among the reports. -/
theorem mem_tenants_ofOutcomes {tenant : String} {r : TenantReport}
    (h : (tenant, .ok r) ∈ outcomes) : r ∈ (ofOutcomes outcomes).tenants :=
  List.mem_mergeSort.2 (List.mem_filterMap.2 ⟨_, h, rfl⟩)

/-- One that failed is among the failures. -/
theorem mem_failures_ofOutcomes {tenant : String} {e : PassError}
    (h : (tenant, .error e) ∈ outcomes) : { tenant, error := e } ∈ (ofOutcomes outcomes).failures :=
  List.mem_mergeSort.2 (List.mem_filterMap.2 ⟨_, h, rfl⟩)

end PassReport

/-! ## The passes of tenants -/

namespace Pass

variable {settings : PassSettings} {snapshot : Snapshot} {W : Type v}
  {answers : W → (q : Request) → q.Answer → W → Prop} {w w' : W}
  {events : List (Script.Event Request Request.Answer)}

/-- A tenant's pass reports on that tenant. -/
theorem yields_reconcileTenant (tenant : String) :
    (reconcileTenant settings snapshot tenant).Yields fun r =>
      ∀ report, r = .ok report → report.tenant = tenant := by
  have heq : reconcileTenant settings snapshot tenant = _ :=
    tenantPass_eq settings tenant (some snapshot)
  rw [heq]
  refine Yields.andThen ((Script.yields_true _).mono ?_) fun found =>
    (yields_carryOut found).mono ?_
  · rintro r - e - report ⟨⟩
  · rintro r hr report rfl
    obtain ⟨batches, rfl⟩ := hr
    rfl

/-- The tenants of a full pass are those of the settings, or else just those that the lister named.
-/
theorem tenants_of_runs_prepareAll {names : List String}
    (h : Script.Runs answers (prepareAll settings) w events (of (.ok (snapshot, names))) w') :
    settings.tenants ≠ [] ∧ names = settings.tenants ∨ settings.tenants = [] ∧
      ⟨.call .tenants settings.pageTimeout, .answered (.ok names)⟩ ∈ events := by
  obtain ⟨built, events₁, events₂, w₁, rfl, -, h⟩ := runs_andThen_ok.1 h
  obtain ⟨found, events₃, events₄, w₂, rfl, htenants, h⟩ := runs_andThen_ok.1 h
  obtain ⟨rfl, heq, -⟩ := Script.runs_done.1 h
  cases heq
  -- The lister is asked only when the settings name nobody.
  rw [tenants] at htenants
  split at htenants
  · next hempty =>
    refine .inr ⟨List.isEmpty_iff.1 hempty, ?_⟩
    cases htenants with
    | ask hhead _ hrest =>
      cases hhead
      obtain ⟨rfl, hsettle, -⟩ := Script.runs_done.1 hrest
      have hanswer := settle_eq_ok (Script.done.inj hsettle).symm
      simp [hanswer]
  · next hsome =>
    obtain ⟨-, heq, -⟩ := Script.runs_done.1 htenants
    refine .inl ⟨fun hnil => hsome (List.isEmpty_iff.2 hnil), ?_⟩
    exact Except.ok.inj (Script.done.inj heq)

end Pass

/-- The results of a fleet of passes are reports on their tenants. -/
theorem Fleet.tenant_of_turns {settings : PassSettings} {snapshot : Snapshot} {W : Type v}
    {answers : String → W → (q : Request) → q.Answer → W → Prop} {w w' : W} {width : Nat}
    {tenants : List String} {f : Fleet (Pass TenantReport)}
    (h : ReflTransGen (Turn (Answered answers) Over (Pass.reconcileTenant settings snapshot))
      (w, launch (Pass.reconcileTenant settings snapshot) width tenants) (w', f)) :
    ∀ o ∈ f.ended, ∀ r, o.2 = .ok r → r.tenant = o.1 := by
  refine (forall_of_turns (P := fun tenant p => p.Yields fun r =>
      ∀ report, r = .ok report → report.tenant = tenant)
    (R := fun tenant r => ∀ report, r = .ok report → report.tenant = tenant)
    Pass.yields_reconcileTenant ?_ ?_ h ⟨?_, ?_⟩).2
  · rintro tenant w p w' p' hp ⟨q, next, a, hq, -, rfl⟩
    exact hp.head hq a
  · rintro tenant w p w' r hp ⟨hdone, -⟩
    obtain rfl := Script.eq_done_of_head hdone
    exact hp
  · intro e he
    rcases of_mem_running_fill he with he | ⟨-, hs⟩
    · cases he
    · exact hs ▸ Pass.yields_reconcileTenant e.1
  · intro o ho
    cases ho

end PolicySync
