import PolicySync.Proofs.Memory.Luck
import PolicySync.Proofs.Pass.Fleets

/-!
# The passes of a fleet do not depend on each other

When what becomes of a tenant's calls depends on the tenant alone, its pass in a fleet is at every
moment where the same pass would be that runs alone: `Shadow` says so, up to the name of the store,
which depends on the order in which stores are opened. A turn moves one pass and its shadow
together, and spares all others. So however wide the fleet is, in whatever order the tenants are
listed and the passes take turns, every tenant ends as it does alone (`fleet_reports`).
-/

namespace PolicySync

open Memory (Backends Luck)
open Memory.Backends (Spares Twins)
open Relation (ReflTransGen)
open Script (Ends Runs Event runs_done)

namespace Pass

variable {luck : Luck} {settings : PassSettings} {snapshot : Snapshot} {tenant other : String}
  {b₀ b b₁ : Backends} {past past₁ : List Call} {p : Pass TenantReport}
  {result : Except PassError TenantReport}

/-- The pass of a tenant opens its store first. -/
theorem head_reconcileTenant : (reconcileTenant settings snapshot tenant).head =
    .ask (.call (.openStore tenant) settings.pageTimeout) fun v =>
      (of (settle .storeLookup settings.pageTimeout .store v)).andThen
        (afterOpening settings snapshot tenant) :=
  rfl

/-- The pass of a tenant ends alone, from the start. -/
def Alone (luck : Luck) (settings : PassSettings) (snapshot : Snapshot) (tenant : String)
    (b₀ : Backends) (r : Except PassError TenantReport) (w : Backends × List Call) : Prop :=
  Ends (luck.answer tenant) (reconcileTenant settings snapshot tenant) (b₀, []) r w

/-- A pass under way is where the pass of the tenant that runs alone would be, up to the name of the
store. -/
inductive Shadow (luck : Luck) (settings : PassSettings) (snapshot : Snapshot) (tenant : String)
    (b₀ b : Backends) : List Call → Pass TenantReport → Prop where
  /-- Both are at their start. -/
  | opening (htwins : Twins tenant b b₀) :
      Shadow luck settings snapshot tenant b₀ b [] (reconcileTenant settings snapshot tenant)
  /-- Both have opened a store, and the one that is alone does the same in its own. -/
  | opened {past : List Call} {p : Pass TenantReport} {id id' : String} {b' : Backends}
      (hid : b.store.ids.get? tenant = some id) (hid' : b'.store.ids.get? tenant = some id')
      (htwins : Twins tenant b b') (hasks : p.Asks (Concerns id))
      (hends : ∀ {r w}, Ends (luck.answer tenant) (p.relocate id' (reportAt id')) (b', past) r w →
        Alone luck settings snapshot tenant b₀ r w) :
      Shadow luck settings snapshot tenant b₀ b past p
  /-- Neither could open a store. -/
  | failed {past : List Call} {e : PassError} {b' : Backends} (htwins : Twins tenant b b')
      (hends : Alone luck settings snapshot tenant b₀ (.error e) (b', past)) :
      Shadow luck settings snapshot tenant b₀ b past (of (.error e))

/-- A tenant's pass has ended as it does alone, up to the name of the store, and so have its tuples.
-/
def EndedAsAlone (luck : Luck) (settings : PassSettings) (snapshot : Snapshot) (b₀ b : Backends)
    (tenant : String) (result : Except PassError TenantReport) : Prop :=
  ∃ id b' past, Alone luck settings snapshot tenant b₀ (reportAt id result) (b', past) ∧
    b'.store.tuplesOf tenant = b.store.tuplesOf tenant

/-- What spares a tenant leaves its shadow in place. -/
theorem Shadow.spares (h : Shadow luck settings snapshot tenant b₀ b past p)
    (hb : Spares tenant b b₁) : Shadow luck settings snapshot tenant b₀ b₁ past p := by
  cases h with
  | opening htwins => exact .opening (htwins.spares hb)
  | opened hid hid' htwins hasks hends =>
    exact .opened (hb.ids _ hid) hid' (htwins.spares hb) hasks hends
  | failed htwins hends => exact .failed (htwins.spares hb) hends

/-- It stays so when others go on. -/
theorem EndedAsAlone.spares (h : EndedAsAlone luck settings snapshot b₀ b tenant result)
    (hb : Spares tenant b b₁) : EndedAsAlone luck settings snapshot b₀ b₁ tenant result := by
  obtain ⟨id, b', past, halone, htuples⟩ := h
  exact ⟨id, b', past, halone, htuples.trans hb.tuples.symm⟩

/-- When a pass asks and is answered, its shadow does the same, and other tenants are spared. -/
theorem Shadow.ask (h : Shadow luck settings snapshot tenant b₀ b past p) {q : Request}
    {next : q.Answer → Pass TenantReport} {a : q.Answer} (hq : p.head = .ask q next)
    (ha : luck.answer tenant q (b, past) = (a, b₁, past₁)) :
    Shadow luck settings snapshot tenant b₀ b₁ past₁ (next a) ∧
      ∀ other ≠ tenant, Spares other b b₁ := by
  cases h with
  | opening htwins =>
    rw [head_reconcileTenant] at hq
    cases hq
    obtain ⟨hspares, v', b₁', ha', htwins', hcases⟩ := Luck.answer_openStore htwins ha
    refine ⟨?_, fun other _ => hspares other⟩
    rcases hcases with ⟨id, id', rfl, rfl, hid, hid'⟩ | ⟨rfl, hfails⟩
    · show Shadow luck settings snapshot tenant b₀ b₁ past₁ (afterOpening settings snapshot tenant id)
      refine .opened hid hid' htwins' (asks_afterOpening id) fun {r w} hends => ?_
      rw [relocate_afterOpening] at hends
      refine .ask head_reconcileTenant ?_
      rw [ha']
      exact hends
    · -- What cannot be opened ends either pass.
      obtain ⟨e, he⟩ := exists_settle_eq_error .storeLookup settings.pageTimeout .store hfails
      have hnext : (of (settle .storeLookup settings.pageTimeout .store v')).andThen
          (afterOpening settings snapshot tenant) = of (.error e) := by
        rw [he]
        rfl
      have halone : Alone luck settings snapshot tenant b₀ (.error e) (b₁', past₁) := by
        refine .ask head_reconcileTenant ?_
        rw [ha', hnext]
        exact ends_of.2 ⟨rfl, rfl⟩
      simp only [hnext]
      exact .failed htwins' halone
  | @opened _ _ id id' b' hid hid' htwins hasks hends =>
    -- From the opening on the two passes differ in the name of the store alone.
    obtain ⟨hconcerns, hnext⟩ := hasks.head hq
    obtain ⟨a', b₁', ha', rfl, htwins', hids, hids'⟩ := Luck.answer_twins htwins hid hid' hconcerns ha
    have hhead : (p.relocate id' (reportAt id')).head = .ask (q.relocate id') fun a =>
        (next (q.answerBack id' a)).relocate id' (reportAt id') := by
      rw [Script.head_relocate, hq]
    refine ⟨.opened hids hids' htwins' (hnext _) fun {r w} hrest => hends (.ask hhead ?_), ?_⟩
    · rw [ha']
      exact hrest
    · exact fun other hne => Luck.answer_spares htwins.store hid hne hconcerns ha
  | failed htwins hends => cases hq

/-- When a pass has ended, its shadow has ended alike. -/
theorem Shadow.done (h : Shadow luck settings snapshot tenant b₀ b past p)
    (hp : p.head = .done result) : EndedAsAlone luck settings snapshot b₀ b tenant result := by
  cases h with
  | opening htwins => cases hp
  | @opened _ _ id id' b' hid hid' htwins hasks hends =>
    refine ⟨id', b', past, hends (.done ?_), htwins.tuples⟩
    rw [Script.head_relocate, hp]
  | @failed _ e b' htwins hends =>
    cases hp
    exact ⟨"", b', past, hends, htwins.tuples⟩

end Pass

/-! ## Fleets -/

open Pass (Shadow EndedAsAlone reconcileTenant prepareAll Alone)

/-- A question of a tenant's pass is answered, the calls of every tenant being remembered. -/
def Memory.Luck.answers (luck : Luck) (tenant : String) (w : Backends × (String → List Call))
    (q : Request) (a : q.Answer) (w' : Backends × (String → List Call)) : Prop :=
  ∃ past, luck.answer tenant q (w.1, w.2 tenant) = (a, w'.1, past) ∧
    w'.2 = Function.update w.2 tenant past

namespace Fleet

variable {luck : Luck} {settings : PassSettings} {snapshot : Snapshot} {b₀ : Backends}
  {w w' : Backends × (String → List Call)} {f f' : Fleet (Pass TenantReport)} {tenants : List String}

/-- Each tenant of a fleet is where it would be alone. -/
structure Shadowed (luck : Luck) (settings : PassSettings) (snapshot : Snapshot) (b₀ : Backends)
    (w : Backends × (String → List Call)) (f : Fleet (Pass TenantReport)) : Prop where
  names : f.names.Nodup
  running : ∀ e ∈ f.running, Shadow luck settings snapshot e.1 b₀ w.1 (w.2 e.1) e.2
  ended : ∀ o ∈ f.ended, EndedAsAlone luck settings snapshot b₀ w.1 o.1 o.2
  waiting : ∀ t ∈ f.waiting, w.2 t = [] ∧ Twins t w.1 b₀

/-- Passes that are started are where they would be alone. -/
theorem Shadowed.fill (h : Shadowed luck settings snapshot b₀ w f) :
    Shadowed luck settings snapshot b₀ w (f.fill (reconcileTenant settings snapshot)) where
  names := by
    rw [names_fill]
    exact h.names
  running e he := by
    rcases of_mem_running_fill he with he | ⟨hwaiting, hstart⟩
    · exact h.running e he
    · obtain ⟨hpast, htwins⟩ := h.waiting e.1 hwaiting
      rw [hstart, hpast]
      exact .opening htwins
  ended := h.ended
  waiting t ht := h.waiting t (List.mem_of_mem_drop ht)

/-- A turn moves one pass together with its shadow, and spares the others. -/
theorem Shadowed.turn (h : Shadowed luck settings snapshot b₀ w f)
    (hturn : Turn (Answered luck.answers) Over (reconcileTenant settings snapshot) (w, f) (w', f')) :
    Shadowed luck settings snapshot b₀ w' f' := by
  cases hturn with
  | @advance _ _ _ i tenant p _ hi hgo =>
    obtain ⟨q, next, a, hq, ⟨past, ha, hpast⟩, rfl⟩ := hgo
    obtain ⟨hended, hwaiting, hrunning⟩ := ne_of_nodup_names h.names hi
    obtain ⟨hshadow, hspares⟩ := (h.running _ (List.mem_of_getElem? hi)).ask hq ha
    -- One tenant's call leaves the record of the others, and spares what matters to them.
    have hothers : ∀ t, t ≠ tenant → w'.2 t = w.2 t := fun t ht => by
      rw [hpast, Function.update_of_ne ht]
    refine ⟨?_, fun e he => ?_, fun o ho => ?_, fun t ht => ?_⟩
    · rw [names_advance]
      exact h.names
    · rcases of_mem_running_advance hi he with rfl | ⟨j, hj, he⟩
      · rw [hpast, Function.update_self]
        exact hshadow
      · have hne := hrunning j hj e he
        rw [hothers _ hne]
        exact (h.running e (List.mem_of_getElem? he)).spares (hspares _ hne)
    · exact (h.ended o ho).spares (hspares _ (hended o ho))
    · have hne := hwaiting t ht
      obtain ⟨hfresh, htwins⟩ := h.waiting t ht
      exact ⟨(hothers t hne).trans hfresh, htwins.spares (hspares t hne)⟩
  | @finish _ _ _ i tenant p result hi hover =>
    obtain ⟨hp, rfl⟩ := hover
    have hnames := names_finish (reconcileTenant settings snapshot) hi result
    rw [finish_eq _ hi] at hnames ⊢
    rw [names_fill] at hnames
    refine Shadowed.fill ⟨hnames.nodup_iff.2 h.names, fun e he => ?_, fun o ho => ?_, h.waiting⟩
    · exact h.running e (List.mem_of_mem_eraseIdx he)
    · rcases List.mem_append.1 ho with ho | ho
      · exact h.ended o ho
      · obtain rfl := List.mem_singleton.1 ho
        exact (h.running _ (List.mem_of_getElem? hi)).done hp

/-- A fleet is launched with all tenants where they would be alone. -/
theorem shadowed_launch (luck : Luck) (settings : PassSettings) (snapshot : Snapshot)
    (hstore : b₀.store.WellFormed) (hfailing : b₀.store.failing = []) (hnodup : tenants.Nodup)
    (width : Nat) : Shadowed luck settings snapshot b₀ (b₀, fun _ => [])
      (launch (reconcileTenant settings snapshot) width tenants) := by
  refine Shadowed.fill ⟨?_, fun e he => ?_, fun o ho => ?_, fun t _ => ⟨rfl, .refl hstore hfailing⟩⟩
  · exact hnodup
  · cases he
  · cases ho

/-- Every turn keeps the passes alike to those that run alone. -/
theorem Shadowed.turns (h : Shadowed luck settings snapshot b₀ w f)
    (hturns : ReflTransGen (Turn (Answered luck.answers) Over (reconcileTenant settings snapshot))
      (w, f) (w', f')) : Shadowed luck settings snapshot b₀ w' f' := by
  generalize hc : (w', f') = c at hturns
  induction hturns generalizing w' f' with
  | refl =>
    cases hc
    exact h
  | tail _ hturn ih =>
    subst hc
    exact (ih rfl).turn hturn

/-- Some pass of a staffed fleet can take a turn until there is a report. -/
theorem Staffed.exists_turn (h : f.Staffed) (hreport : f.report? = none) :
    ∃ c, Turn (Answered luck.answers) Over (reconcileTenant settings snapshot) (w, f) c := by
  obtain ⟨tenant, p, hi⟩ := h.exists_running hreport
  cases hp : p.head with
  | done result => exact ⟨_, .finish hi ⟨hp, rfl⟩⟩
  | ask q next =>
    obtain ⟨⟨a, b, past⟩, ha⟩ : ∃ r, luck.answer tenant q (w.1, w.2 tenant) = r := ⟨_, rfl⟩
    exact ⟨((b, Function.update w.2 tenant past), _),
      .advance hi ⟨q, next, a, hp, ⟨past, ha, rfl⟩, rfl⟩⟩

end Fleet

open Fleet (launch Turn Answered Over)

/-- A full pass that reports has done so for the tenants of the settings, or else for those that the
lister named: their names are those of the two lists together, each of which is in order, and the
report is a success just when every pass was. When what becomes of the calls depends on their tenant
alone and no tenant is listed twice, then, whatever the width and the turns are, the fleet does not
get stuck before there is a report, and each tenant is reported with what its pass leads to alone,
up to the name of the store, and has the same tuples in the end. -/
theorem fleet_reports (settings : PassSettings) :
    (∀ {W : Type} {prepares : W → (q : Request) → q.Answer → W → Prop}
        {answers : String → W → (q : Request) → q.Answer → W → Prop} {w w₁ w₂ : W}
        {events snapshot tenants f report},
      Runs prepares (prepareAll settings) w events (Pass.of (.ok (snapshot, tenants))) w₁ →
      ReflTransGen (Turn (Answered answers) Over (reconcileTenant settings snapshot))
        (w₁, launch (reconcileTenant settings snapshot) settings.tenantConcurrency tenants) (w₂, f) →
      f.report? = some report →
      (settings.tenants ≠ [] ∧ tenants = settings.tenants ∨ settings.tenants = [] ∧
        ⟨.call .tenants settings.pageTimeout, .answered (.ok tenants)⟩ ∈ events) ∧
      (f.ended.map (·.1)).Perm tenants ∧
      (report.tenants.map (·.tenant) ++ report.failures.map (·.tenant)).Perm tenants ∧
      report.tenants.Pairwise (fun a b => a.tenant ≤ b.tenant) ∧
      report.failures.Pairwise (fun a b => a.tenant ≤ b.tenant) ∧
      (report.isSuccess = true ↔ ∀ o ∈ f.ended, ∃ r, o.2 = .ok r)) ∧
    ∀ {luck : Luck} {snapshot : Snapshot} {b : Backends} {tenants : List String} {width w f},
      b.store.Reachable → b.store.failing = [] → tenants.Nodup →
      ReflTransGen (Turn (Answered luck.answers) Over (reconcileTenant settings snapshot))
        ((b, fun _ => []), launch (reconcileTenant settings snapshot) width tenants) (w, f) →
      (f.report? = none →
        ∃ c, Turn (Answered luck.answers) Over (reconcileTenant settings snapshot) (w, f) c) ∧
      ∀ report, f.report? = some report → ∀ tenant ∈ tenants, ∃ r b' past,
        Alone luck settings snapshot tenant b r (b', past) ∧
        w.1.store.tuplesOf tenant = b'.store.tuplesOf tenant ∧
        match r with
        | .ok r => r.tenant = tenant ∧ ∃ id, { r with store := id } ∈ report.tenants
        | .error e => { tenant, error := e } ∈ report.failures := by
  refine ⟨?_, ?_⟩
  · intro W prepares answers w w₁ w₂ events snapshot tenants f report hprepare hturns hreport
    have hended := Fleet.ended_of_turns hturns hreport
    obtain ⟨-, -, rfl⟩ := Fleet.of_report?_eq_some hreport
    have hnames := PassReport.names_ofOutcomes (Fleet.tenant_of_turns hturns)
    obtain ⟨hsorted, hsorted'⟩ := @PassReport.sorted_ofOutcomes f.ended
    exact ⟨Pass.tenants_of_runs_prepareAll hprepare, hended, hnames.trans hended, hsorted, hsorted',
      PassReport.isSuccess_ofOutcomes⟩
  · intro luck snapshot b tenants width w f hstore hfailing hnodup hturns
    refine ⟨fun hreport => (Fleet.staffed_of_turns hturns).exists_turn hreport,
      fun report hreport tenant htenant => ?_⟩
    have hended := Fleet.ended_of_turns hturns hreport
    obtain ⟨⟨name, result⟩, ho, rfl⟩ := List.mem_map.1 (hended.mem_iff.2 htenant)
    -- Every pass is shadowed by one that runs alone, so they end alike.
    have hshadowed := (Fleet.shadowed_launch luck settings snapshot hstore.wellFormed hfailing hnodup
      width).turns hturns
    obtain ⟨id, b', past, halone, htuples⟩ := hshadowed.ended _ ho
    obtain ⟨-, -, rfl⟩ := Fleet.of_report?_eq_some hreport
    refine ⟨_, b', past, halone, htuples.symm, ?_⟩
    cases result with
    | ok r =>
      exact ⟨Fleet.tenant_of_turns hturns _ ho r rfl, r.store, PassReport.mem_tenants_ofOutcomes ho⟩
    | error e => exact PassReport.mem_failures_ofOutcomes ho

/-- The running pass at a position takes a turn. -/
def Fleet.turnAt (luck : Luck) (start : String → Pass TenantReport)
    (c : (Backends × (String → List Call)) × Fleet (Pass TenantReport)) (i : Nat) :
    (Backends × (String → List Call)) × Fleet (Pass TenantReport) :=
  match c.2.running[i]? with
  | none => c
  | some (tenant, p) =>
    match p.head with
    | .done r => (c.1, c.2.finish start i r)
    | .ask q next =>
      let (a, b, past) := luck.answer tenant q (c.1.1, c.1.2 tenant)
      ((b, Function.update c.1.2 tenant past), c.2.advance i (next a))

/-- Turns by position are turns. -/
theorem Fleet.turns_foldl (luck : Luck) (start : String → Pass TenantReport)
    (c : (Backends × (String → List Call)) × Fleet (Pass TenantReport)) (positions : List Nat) :
    ReflTransGen (Turn (Answered luck.answers) Over start) c
      (positions.foldl (turnAt luck start) c) := by
  induction positions generalizing c with
  | nil => exact .refl
  | cons i positions ih =>
    refine .trans ?_ (ih _)
    unfold turnAt
    cases hi : c.2.running[i]? with
    | none => exact .refl
    | some e =>
      obtain ⟨tenant, p⟩ := e
      dsimp only
      cases hp : p.head with
      | done r => exact .single (.finish hi ⟨hp, rfl⟩)
      | ask q next => exact .single (.advance hi ⟨q, next, _, hp, ⟨_, rfl, rfl⟩, rfl⟩)

/-- The store of the south cannot be read. -/
def southernFog : Luck where
  outcome? tenant _ c :=
    match c with
    | .read _ _ _ =>
      if tenant = "south" then some (.answered (.error (.request "fog")), true) else none
    | _ => none
  unnamed h := nomatch h

/-- Both passes take turns until the south has failed, and then the north goes on. -/
def foggyTurns : List Nat := (List.replicate 11 [0, 1]).flatten ++ List.replicate 9 0

/-- The passes of both tenants, after their turns. -/
def foggyRun : (Backends × (String → List Call)) × Fleet (Pass TenantReport) :=
  foggyTurns.foldl (Fleet.turnAt southernFog (reconcileTenant {} {}))
    ((Backends.office, fun _ => []), launch (reconcileTenant {} {}) 2 ["south", "north"])

/-- With the calls of one tenant lost in fog, the pass of the other reports what it does alone. -/
theorem fleet_reports_fog : ∃ report, foggyRun.2.report? = some report ∧
    report.failures = [⟨"south", .store (.request "fog")⟩] ∧ ∃ r b' past,
      Alone southernFog {} {} "north" Backends.office (.ok r) (b', past) ∧
      foggyRun.1.1.store.tuplesOf "north" = b'.store.tuplesOf "north" ∧
      ∃ id, { r with store := id } ∈ report.tenants := by
  have hreport : foggyRun.2.report?.map (fun r => (r.failures, r.tenants.map (·.tenant))) =
      some ([⟨"south", .store (.request "fog")⟩], ["north"]) := by
    decide +kernel
  have hturns : ReflTransGen (Turn (Answered southernFog.answers) Over (reconcileTenant {} {}))
      ((Backends.office, fun _ => []), launch (reconcileTenant {} {}) 2 ["south", "north"])
      foggyRun :=
    Fleet.turns_foldl southernFog _ _ foggyTurns
  generalize foggyRun = c at hreport hturns ⊢
  obtain ⟨w, f⟩ := c
  obtain ⟨report, hreport, heq⟩ := Option.map_eq_some_iff.1 hreport
  obtain ⟨hfailures, -⟩ := Prod.mk.inj heq
  obtain ⟨-, halone⟩ := fleet_reports {}
  obtain ⟨-, hall⟩ := halone (.seed .empty "north" _) rfl (by decide) hturns
  obtain ⟨r, b', past, hends, htuples, hlisted⟩ := hall report hreport "north" (by decide)
  cases r with
  | ok r => exact ⟨report, hreport, hfailures, r, b', past, hends, htuples, hlisted.2⟩
  | error e =>
    rw [hfailures] at hlisted
    have hname : "north" = "south" := congrArg TenantFailure.tenant (List.mem_singleton.1 hlisted)
    exact absurd hname (by decide)

end PolicySync
