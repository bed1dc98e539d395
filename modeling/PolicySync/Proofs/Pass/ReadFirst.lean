import PolicySync.Proofs.Pass.Survey

/-!
# A tenant's pass writes last

Whatever the answers are, the pass of a tenant asks for its first write after it has read all pages
of what is desired and of what is stored, so one that fails before then has changed no tuples, and
at most opened a store. A dry run asks for no write, and reports what the same pass would find and
do otherwise (`reads_before_writing`).
-/

namespace PolicySync

open Script (Runs Asks Event runs_done runs_bind_done)

/-! ## Answers that were heard -/

/-- The pass has heard the result of its call. -/
def Request.Heard : (q : Request) → q.Answer → Prop
  | .call c _, v => ¬ c.Fails v
  | .publish _, _ => True

namespace Memory.Backends

variable {b b' b'' : Backends} {tenant : String}

/-- A result that was heard is that of the backend. -/
theorem Answers.answer_of_heard {q : Request} {a : q.Answer} (h : b.Answers q a b')
    (ha : q.Heard a) : answer q b = (a, b') := by
  cases h with
  | heard => rfl
  | unheard hv => exact absurd hv ha
  | failed hv hb => exact absurd hv ha

theorem Agrees.refl (b : Backends) : b.Agrees b := ⟨rfl, rfl, rfl⟩

/-- Backends agree with whatever agrees with one of them. -/
theorem Agrees.trans (h : b.Agrees b') (h' : b'.Agrees b'') : b.Agrees b'' :=
  ⟨h'.shelves.trans h.shelves, h'.ids.trans h.ids, h'.contents.trans h.contents⟩

/-- Opening the store of a tenant depends on the stores and their tuples alone. -/
theorem Agrees.opened (h : b.Agrees b') (tenant : String) :
    (b.opened tenant).Agrees (b'.opened tenant) := by
  refine ⟨h.shelves, ?_, ?_⟩ <;>
  · simp only [Backends.opened, Store.getOrCreate, h.ids, h.contents]
    cases b.store.ids.get? tenant with
    | some id => simp [h.ids, h.contents]
    | none => rfl

/-- An opened store is found when it is opened again. -/
theorem opened_opened (hstore : b.store.WellFormed) (tenant : String) :
    (b.opened tenant).opened tenant = b.opened tenant := by
  have hid : (b.opened tenant).store.ids.get? tenant = some (b.store.getOrCreate tenant).1 :=
    (Store.getOrCreate_spec hstore tenant).2.1
  show { b.opened tenant with store := ((b.opened tenant).store.getOrCreate tenant).2 } = _
  rw [Store.getOrCreate_of_get? hid]

/-- Nothing has changed, except that the store of a tenant may have been opened. -/
def Untouched (tenant : String) (b b' : Backends) : Prop :=
  b.Agrees b' ∨ (b.opened tenant).Agrees b'

/-- What is untouched twice is untouched. -/
theorem Untouched.trans (hstore : b.store.WellFormed) (h : Untouched tenant b b')
    (h' : Untouched tenant b' b'') : Untouched tenant b b'' := by
  rcases h with h | h <;> rcases h' with h' | h'
  · exact .inl (h.trans h')
  · exact .inr ((h.opened tenant).trans h')
  · exact .inr (h.trans h')
  · exact .inr (opened_opened hstore tenant ▸ (h.opened tenant).trans h')

/-- In untouched backends all tenants have the tuples that they had. -/
theorem Untouched.tuplesOf (hstore : b.store.WellFormed) (h : Untouched tenant b b')
    (other : String) : b'.store.tuplesOf other = b.store.tuplesOf other := by
  rcases h with h | h
  · exact h.tuplesOf
  · exact h.tuplesOf.trans ((Store.getOrCreate_spec hstore tenant).2.2 other)

/-- A call of a survey opens the store of the tenant, or changes nothing. -/
theorem untouched_call {c : Call} {limit : Nat} (hc : Pass.Surveys tenant (.call c limit)) :
    Untouched tenant b (b.call c).2 := by
  cases c with
  | list kind space limit token =>
    obtain ⟨hshelves, hsame⟩ := same_call_list b kind space limit token
    exact .inl ⟨hshelves, by rw [hsame], by rw [hsame]⟩
  | tenants => exact .inl (.refl b)
  | openStore other =>
    cases hc
    exact .inr (.refl _)
  | read id limit token => exact .inl (.refl b)
  | write id batch => exact hc.elim

/-- However a question of a survey is answered, nothing changes but that a store may be opened. -/
theorem Answers.untouched {q : Request} {a : q.Answer} (h : b.Answers q a b')
    (hq : Pass.Surveys tenant q) : Untouched tenant b b' := by
  cases h with
  | heard =>
    cases q with
    | call c limit => exact untouched_call hq
    | publish snapshot => exact .inl (.refl b)
  | unheard hv => exact untouched_call hq
  | failed hv hb => exact .inl hb

end Memory.Backends

namespace Pass

open Memory (Backends)
open Memory.Backends (Answers Untouched answer)

variable {settings : PassSettings} {tenant : String} {held : Option Snapshot}

/-! ## What was read was heard -/

/-- A page that names the next one was answered. -/
theorem heard_of_nextPage? {e : Event Request Request.Answer} {next : Option String}
    (h : nextPage? e = some next) : e.1.Heard e.2 := by
  obtain ⟨q, a⟩ := e
  unfold nextPage? at h
  split at h
  · next heq =>
    cases heq
    exact fun hfails => hfails _ rfl
  · next heq =>
    cases heq
    exact fun hfails => hfails _ rfl
  · cases h

/-- Every page that was read was answered. -/
theorem PagesRead.heard {request : Option String → Request} {token : Option String}
    {events : List (Event Request Request.Answer)} (h : PagesRead request token events) :
    ∀ e ∈ events, e.1.Heard e.2 := by
  induction h with
  | last h => exact List.forall_mem_singleton.2 (heard_of_nextPage? h)
  | more h _ ih => exact List.forall_mem_cons.2 ⟨heard_of_nextPage? h, ih⟩

/-- So was every call of a survey. -/
theorem SurveyRead.heard {id : String} {events : List (Event Request Request.Answer)}
    (h : SurveyRead settings tenant id events) : ∀ e ∈ events, e.1.Heard e.2 := by
  obtain ⟨resources, tuples, rfl, hresources, htuples⟩ := h
  have hkinds : ∀ es ∈ resources, ∀ e ∈ es, e.1.Heard e.2 :=
    (Fallible.forall₂_and_iff.1 (hresources.imp fun _ _ h => ⟨h, h.heard⟩)).2
  rw [List.forall_mem_cons, List.forall_mem_append, List.forall_mem_flatten]
  exact ⟨fun hfails => hfails id rfl, hkinds, htuples.heard⟩

/-- So was every call that comes before the writes. -/
theorem ReadThrough.heard {id : String} {events : List (Event Request Request.Answer)}
    (h : ReadThrough settings tenant held id events) : ∀ e ∈ events, e.1.Heard e.2 := by
  cases held with
  | some snapshot => exact SurveyRead.heard h
  | none =>
    obtain ⟨roles, snapshot, rest, rfl, hroles, hsurvey⟩ := h
    rw [List.forall_mem_append, List.forall_mem_cons]
    exact ⟨hroles.heard, trivial, hsurvey.heard⟩

/-- A survey that finds something finds what the backends hold. -/
theorem ends_survey {b b' : Backends} {events : List (Event Request Request.Answer)}
    {found : Findings}
    (h : Runs Answers (survey settings tenant held) b events (of (.ok found)) b') :
    Script.Ends answer (survey settings tenant held) b (.ok found) b' :=
  h.ends Answers.answer_of_heard (readThrough_of_runs h).heard

/-- A pass that is answered in time runs. -/
theorem exists_runs_of_ends {α : Type} {p : Pass α} {b b' : Backends} {r : Except PassError α}
    (h : Script.Ends answer p b r b') : ∃ events, Runs Answers p b events (of r) b' :=
  Script.exists_runs_of_ends (fun _ q => Answers.heard q) h

/-! ## Runs of the pass -/

/-- A survey is the same whether the pass is a dry run or not. -/
theorem survey_dryRun (dryRun : Bool) :
    survey { settings with dryRun } tenant held = survey settings tenant held := by
  cases held <;> rfl

/-- A run of the pass is one of the survey, or goes on after it with carrying out what was found. -/
theorem of_runs_tenantPass {W : Type u} {answers : W → (q : Request) → q.Answer → W → Prop}
    {w w' : W} {events : List (Event Request Request.Answer)} {rest : Pass TenantReport}
    (h : Runs answers (tenantPass settings tenant held) w events rest w') :
    (∃ left, rest = andThen left (carryOut settings tenant) ∧
      Runs answers (survey settings tenant held) w events left w') ∨
    ∃ found reading writes w₁, events = reading ++ writes ∧
      Runs answers (survey settings tenant held) w reading (of (.ok found)) w₁ ∧
      Runs answers (carryOut settings tenant found) w₁ writes rest w' := by
  rw [tenantPass_eq] at h
  rcases Script.of_runs_bind h with ⟨left, hrest, hsurvey⟩ |
    ⟨r, reading, writes, w₁, rfl, hsurvey, hrest⟩
  · exact .inl ⟨left, hrest, hsurvey⟩
  · cases r with
    | ok found => exact .inr ⟨found, reading, writes, w₁, rfl, hsurvey, hrest⟩
    | error e =>
      obtain ⟨rfl, rfl, rfl⟩ := runs_done.1 hrest
      exact .inl ⟨of (.error e), rfl, by rwa [List.append_nil]⟩

/-- The survey was read through, and each event after it is a write to the surveyed store. -/
def WritesLast (settings : PassSettings) (tenant : String) (held : Option Snapshot)
    (events : List (Event Request Request.Answer)) : Prop :=
  ∃ id reading writes, events = reading ++ writes ∧ ReadThrough settings tenant held id reading ∧
    ∀ e ∈ writes, ∃ batch, e.1 = .call (.write id batch) settings.batchTimeout

/-- Before the pass writes, it has read all pages. -/
theorem writesLast_of_runs {W : Type u} {answers : W → (q : Request) → q.Answer → W → Prop}
    {w w' : W} {events : List (Event Request Request.Answer)} {rest : Pass TenantReport}
    (h : Runs answers (tenantPass settings tenant held) w events rest w') :
    (∀ e ∈ events, Surveys tenant e.1) ∨
      settings.dryRun = false ∧ WritesLast settings tenant held events := by
  rcases of_runs_tenantPass h with ⟨left, -, hsurvey⟩ |
    ⟨found, reading, writes, w₁, rfl, hsurvey, hwrites⟩
  · exact .inl ((asks_survey held).runs hsurvey).1
  · have hreading := ((asks_survey held).runs hsurvey).1
    have hwriting := ((asks_carryOut found).runs hwrites).1
    cases writes with
    | nil => exact .inl (by rwa [List.append_nil])
    | cons e writes =>
      refine .inr ⟨(hwriting e List.mem_cons_self).1, found.store, reading, e :: writes, rfl,
        readThrough_of_runs hsurvey, fun e he => ?_⟩
      obtain ⟨batch, -, hbatch⟩ := (hwriting e he).2
      exact ⟨batch, hbatch⟩

/-- A pass that fails, other than because of a batch or a cancellation, has not gone beyond its
survey. -/
theorem runs_survey_of_error {W : Type u} {answers : W → (q : Request) → q.Answer → W → Prop}
    {w w' : W} {events : List (Event Request Request.Answer)} {e : PassError}
    (hbatches : ∀ tenant failed total, e ≠ .batches tenant failed total) (hcancelled : e ≠ .cancelled)
    (h : Runs answers (tenantPass settings tenant held) w events (of (.error e)) w') :
    ∃ left, Runs answers (survey settings tenant held) w events left w' := by
  rcases of_runs_tenantPass h with ⟨left, -, hsurvey⟩ |
    ⟨found, reading, writes, w₁, rfl, hsurvey, hwrites⟩
  · exact ⟨left, hsurvey⟩
  · rcases (yields_carryOut found).runs hwrites with heq | ⟨failed, total, heq⟩
    · exact absurd heq hcancelled
    · exact absurd heq (hbatches tenant failed total)

/-- A pass that ends well reports what its survey has found. -/
theorem exists_found_of_runs {b b' : Backends} {events : List (Event Request Request.Answer)}
    {report : TenantReport}
    (h : Runs Answers (tenantPass settings tenant held) b events (of (.ok report)) b') :
    ∃ found b₁ batches, Script.Ends answer (survey settings tenant held) b (.ok found) b₁ ∧
      report = found.report tenant batches settings.dryRun := by
  rw [tenantPass_eq] at h
  obtain ⟨found, reading, writes, b₁, rfl, hsurvey, hwrites⟩ := runs_andThen_ok.1 h
  obtain ⟨batches, hreport⟩ := (yields_carryOut found).runs hwrites
  exact ⟨found, b₁, batches, ends_survey hsurvey, hreport⟩

/-- Whatever the answers are, a tenant's pass asks for a write only after it has read all pages of
both its sets, and if it fails for another reason than a batch or a cancellation, it has asked for
none and changed nobody's tuples. A dry run asks for no write at all, and when the pass could
succeed, the dry run succeeds with the same findings, and with no others. -/
theorem reads_before_writing (settings : PassSettings) (tenant : String) (held : Option Snapshot) :
    (∀ {W : Type} {answers : W → (q : Request) → q.Answer → W → Prop} {w w' : W} {events}
        {rest : Pass TenantReport},
      Runs answers (tenantPass settings tenant held) w events rest w' →
      ((∀ ev ∈ events, ev.1.isWrite = false) ∨ WritesLast settings tenant held events) ∧
      (settings.dryRun = true → ∀ ev ∈ events, ev.1.isWrite = false) ∧
      ∀ e, rest = of (.error e) → (∀ tenant failed total, e ≠ .batches tenant failed total) →
        e ≠ .cancelled → ∀ ev ∈ events, ev.1.isWrite = false) ∧
    (∀ {b b' : Backends} {events e}, b.store.Reachable →
      Runs Answers (tenantPass settings tenant held) b events (of (.error e)) b' →
      (∀ tenant failed total, e ≠ .batches tenant failed total) → e ≠ .cancelled →
      (∀ other, b'.store.tuplesOf other = b.store.tuplesOf other) ∧ Untouched tenant b b') ∧
    ∀ {b b' : Backends} {events report},
      Runs Answers (tenantPass { settings with dryRun := false } tenant held) b events
        (of (.ok report)) b' →
      (∃ events₁ b₁, Runs Answers (tenantPass { settings with dryRun := true } tenant held) b
        events₁ (of (.ok { report with batches := 0, dryRun := true })) b₁) ∧
      ∀ {events₁ report₁ b₁},
        Runs Answers (tenantPass { settings with dryRun := true } tenant held) b events₁
          (of (.ok report₁)) b₁ →
        report₁ = { report with batches := 0, dryRun := true } := by
  refine ⟨fun {W answers w w' events rest} hrun => ⟨?_, ?_, ?_⟩, ?_, ?_⟩
  · exact (writesLast_of_runs hrun).imp
      (fun hreads e he => isWrite_eq_false_of_surveys (hreads e he)) (·.2)
  · intro hdry e he
    rcases writesLast_of_runs hrun with hreads | ⟨hwet, -⟩
    · exact isWrite_eq_false_of_surveys (hreads e he)
    · rw [hdry] at hwet
      cases hwet
  · rintro e rfl hbatches hcancelled ev hev
    obtain ⟨left, hsurvey⟩ := runs_survey_of_error hbatches hcancelled hrun
    exact isWrite_eq_false_of_surveys (((asks_survey held).runs hsurvey).1 ev hev)
  · intro b b' events e hreach hrun hbatches hcancelled
    obtain ⟨left, hsurvey⟩ := runs_survey_of_error hbatches hcancelled hrun
    have hstore := hreach.wellFormed
    -- A survey asks for nothing that changes tuples, whatever it is answered.
    have huntouched : Untouched tenant b b' :=
      (asks_survey held).keeps (fun hq ha h => h.trans hstore (ha.untouched hq)) hsurvey
        (.inl (.refl b))
    exact ⟨huntouched.tuplesOf hstore, huntouched⟩
  · intro b b' events report hrun
    -- Both passes find the same, since a survey does not look at whether it is dry.
    obtain ⟨found, b₁, batches, hfound, rfl⟩ := exists_found_of_runs hrun
    rw [survey_dryRun] at hfound
    constructor
    · have hends := ends_andThen_of_ok (f := carryOut { settings with dryRun := true } tenant) hfound
        (ends_of.2 ⟨rfl, rfl⟩)
      rw [← survey_dryRun true, ← tenantPass_eq] at hends
      obtain ⟨events₁, hdry⟩ := exists_runs_of_ends hends
      exact ⟨events₁, b₁, hdry⟩
    · intro events₁ report₁ b₂ hdry
      rw [tenantPass_eq] at hdry
      obtain ⟨found₁, reading, writes, b₃, rfl, hsurvey, hreport⟩ := runs_andThen_ok.1 hdry
      have hfound₁ := ends_survey hsurvey
      rw [survey_dryRun] at hfound₁
      cases (hfound₁.unique hfound).1
      rw [carryOut_of_dryRun rfl] at hreport
      cases (runs_done.1 hreport).2.1
      rfl

/-- The office with a user whose basic role is unknown. -/
def misfit : Backends :=
  { Backends.office with
    lister := Backends.office.lister.upsert
      { metadata := { name := "guest", tenant := some "north" }, spec := .user "owner" } }

/-- With a user whose basic role is unknown nothing is written, and a dry run of the office makes
the calls of the survey alone. -/
theorem reads_before_writing_misfit :
    (∃ events b', Runs Answers (tenantPass {} "north" none) misfit events
        (of (.error (.policy .user "guest" (.unknownBasicRole "owner")))) b' ∧
      (∀ ev ∈ events, ev.1.isWrite = false) ∧
      ∀ other, b'.store.tuplesOf other = misfit.store.tuplesOf other) ∧
    ∃ events b', Runs Answers (tenantPass { dryRun := true } "north" none) Backends.office events
      (of (.ok { tenant := "north", store := "store-001", desired := 2, actual := 3, added := 1
                 deleted := 2, batches := 0, dryRun := true })) b' := by
  have hmisfit : (Script.run answer 20 (tenantPass {} "north" none) misfit).map (·.1) =
      some (.error (.policy .user "guest" (.unknownBasicRole "owner"))) := by rfl
  have hoffice : (Script.run answer 20 (tenantPass {} "north" none) Backends.office).map (·.1) =
      some (.ok { tenant := "north", store := "store-001", desired := 2, actual := 3, added := 1
                  deleted := 2, batches := 1, dryRun := false }) := by rfl
  -- Both passes end as they do when they are simply run.
  obtain ⟨⟨-, b'⟩, hresult, rfl⟩ := Option.map_eq_some_iff.1 hmisfit
  obtain ⟨events, hrun⟩ := exists_runs_of_ends (Script.ends_of_run hresult)
  obtain ⟨⟨-, b''⟩, hresult', rfl⟩ := Option.map_eq_some_iff.1 hoffice
  obtain ⟨events', hrun'⟩ := exists_runs_of_ends (Script.ends_of_run hresult')
  have hbatches : ∀ tenant failed total,
      PassError.policy .user "guest" (.unknownBasicRole "owner") ≠ .batches tenant failed total := by
    rintro tenant failed total ⟨⟩
  have hstore : misfit.store.Reachable := .seed .empty "north" _
  obtain ⟨hasks, hstored, hdry⟩ := reads_before_writing {} "north" none
  obtain ⟨-, -, hunwritten⟩ := hasks hrun
  obtain ⟨hsame, -⟩ := hstored hstore hrun hbatches PassError.noConfusion
  obtain ⟨⟨events₁, b₁, hagain⟩, -⟩ := hdry hrun'
  have hnone := hunwritten _ rfl hbatches PassError.noConfusion
  exact ⟨⟨events, b', hrun, hnone, hsame⟩, events₁, b₁, hagain⟩

end Pass

end PolicySync
