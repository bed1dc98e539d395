import PolicySync.Proofs.Memory.Answers
import PolicySync.Proofs.Pass.Building
import PolicySync.Proofs.Pass.Phases
import PolicySync.Proofs.Script.Runs

/-!
# What a tenant's pass reads before it writes

The pass of a tenant is a survey, which reads the global roles if no snapshot is held, the resources
of the tenant and its stored tuples, and then it carries out what it has found (`tenantPass_eq`).
The survey asks for no write, and it finds something only after all pages have been read to the end
(`readThrough_of_runs`). Carrying out fails with nothing but failed batches or a cancellation, and
it writes to the surveyed store only, or not at all when the pass is a dry run.
-/

namespace PolicySync.Pass

open Fallible
open Script (Runs Asks Yields Event runs_done runs_bind_done)

/-! ## The two parts -/

/-- What a tenant's pass has read. -/
structure Findings where
  store : String
  desired : TupleSet
  actual : TupleSet

/-- The report on what was read, after some batches. -/
def Findings.report (found : Findings) (tenant : String) (batches : Nat) (dryRun : Bool) :
    TenantReport where
  tenant
  store := found.store
  desired := found.desired.size
  actual := found.actual.size
  added := (TupleDiff.between found.desired found.actual).additions.length
  deleted := (TupleDiff.between found.desired found.actual).deletions.length
  batches
  dryRun

/-- The part of a tenant's pass that reads, with a snapshot. -/
def surveyWith (settings : PassSettings) (tenant : String) (snapshot : Snapshot) : Pass Findings :=
  (openStore settings tenant).andThen fun store =>
  (desiredTuples settings tenant snapshot).andThen fun desired =>
  (actualTuples settings store).andThen fun actual => of (.ok { store, desired, actual })

/-- The part of a tenant's pass that reads, with the snapshot that is held or else a fresh one. -/
def survey (settings : PassSettings) (tenant : String) : Option Snapshot → Pass Findings
  | some snapshot => surveyWith settings tenant snapshot
  | none => (refreshSnapshot settings).andThen (surveyWith settings tenant)

/-- The part of a tenant's pass that writes, and its report. -/
def carryOut (settings : PassSettings) (tenant : String) (found : Findings) : Pass TenantReport :=
  let write :=
    if settings.dryRun then of (.ok {})
    else writeDiff tenant found.store (TupleDiff.between found.desired found.actual)
      settings.writeBatchSize settings.batchTimeout
  write.andThen fun summary => of (.ok (found.report tenant summary.batches settings.dryRun))

/-- The pass of a tenant, with the snapshot that is held or else a fresh one. -/
def tenantPass (settings : PassSettings) (tenant : String) : Option Snapshot → Pass TenantReport
  | some snapshot => reconcileTenant settings snapshot tenant
  | none => reconcile settings tenant

/-- The pass of a tenant is its survey, and then what the survey calls for is carried out. -/
theorem tenantPass_eq (settings : PassSettings) (tenant : String) (held : Option Snapshot) :
    tenantPass settings tenant held =
      (survey settings tenant held).andThen (carryOut settings tenant) := by
  have hwith : ∀ snapshot, reconcileTenant settings snapshot tenant =
      (surveyWith settings tenant snapshot).andThen (carryOut settings tenant) := by
    intro snapshot
    simp only [surveyWith, andThen_assoc]
    rfl
  cases held with
  | some snapshot => exact hwith snapshot
  | none =>
    show (refreshSnapshot settings).andThen _ = _
    simp only [survey, andThen_assoc, hwith]

/-! ## What the parts ask -/

/-- A question of a survey: it asks for no write, and it opens no store but the tenant's. -/
def Surveys (tenant : String) : Request → Prop
  | .call (.write _ _) _ => False
  | .call (.openStore other) _ => other = tenant
  | _ => True

/-- A survey writes nothing. -/
theorem isWrite_eq_false_of_surveys {tenant : String} {q : Request} (h : Surveys tenant q) :
    q.isWrite = false := by
  cases q with
  | call c limit =>
    cases c with
    | write id batch => exact h.elim
    | _ => rfl
  | publish snapshot => rfl

section Asks

variable {α β σ : Type} {P : Request → Prop}

/-- What a pass asks for is what its two parts ask for. -/
theorem asks_andThen {p : Pass α} {f : α → Pass β} (hp : p.Asks P) (hf : ∀ a, (f a).Asks P) :
    (p.andThen f).Asks P :=
  hp.bind fun r => by
    cases r with
    | ok a => exact hf a
    | error e => trivial

/-- Reading pages asks for pages. -/
theorem asks_pagesFrom {request : Option String → Request}
    {absorb : σ → (token : Option String) → (request token).Answer →
      Except PassError (σ × Option String)} (h : ∀ token, P (request token)) (acc : σ)
    (token : Option String) : (pagesFrom request absorb acc token).Asks P := by
  refine ⟨fun s => ⟨h s.2, fun a => ?_⟩, fun _ => trivial⟩
  dsimp only
  cases absorb s.1 s.2 a with
  | error e => trivial
  | ok taken =>
    obtain ⟨acc', next⟩ := taken
    cases next <;> trivial

end Asks

variable {settings : PassSettings} {tenant : String}

/-- The resources of a kind are read page by page. -/
theorem desiredOfKind_eq (snapshot : Snapshot) (kind : ResourceKind) (desired : TupleSet) :
    desiredOfKind settings tenant snapshot kind desired =
      pagesFrom (resourcesRequest settings tenant kind) (absorbResources settings snapshot) desired
        none :=
  rfl

/-- So are the stored tuples. -/
theorem actualTuples_eq (id : String) : actualTuples settings id =
    pagesFrom (tuplesRequest settings id) (absorbTuples settings) SortedMap.empty none :=
  rfl

/-- The desired tuples take listings of the kinds in question only. -/
theorem asks_desiredOfKinds {P : Request → Prop} (snapshot : Snapshot) (kinds : List ResourceKind)
    (h : ∀ kind token, P (resourcesRequest settings tenant kind token)) (desired : TupleSet) :
    (desiredOfKinds settings tenant snapshot kinds desired).Asks P := by
  induction kinds generalizing desired with
  | nil => trivial
  | cons kind kinds ih =>
    rw [desiredOfKinds, desiredOfKind_eq]
    exact asks_andThen (asks_pagesFrom (h kind) _ _) ih

/-- A survey with a snapshot makes the calls of a survey. -/
theorem asks_surveyWith (snapshot : Snapshot) :
    (surveyWith settings tenant snapshot).Asks (Surveys tenant) := by
  refine asks_andThen ⟨rfl, fun _ => trivial⟩ fun store =>
    asks_andThen (asks_desiredOfKinds _ _ (fun _ _ => trivial) _) fun desired => ?_
  rw [actualTuples_eq]
  exact asks_andThen (asks_pagesFrom (fun _ => trivial) _ _) fun actual => trivial

/-- So does one that builds the snapshot first. -/
theorem asks_survey (held : Option Snapshot) :
    (survey settings tenant held).Asks (Surveys tenant) := by
  cases held with
  | some snapshot => exact asks_surveyWith snapshot
  | none =>
    have hbuild : (buildSnapshot settings).Asks (Surveys tenant) := by
      rw [buildSnapshot, globalRoles_eq]
      exact asks_andThen (asks_pagesFrom (fun _ => trivial) _ _) fun roles => trivial
    have hrefresh : (refreshSnapshot settings).Asks (Surveys tenant) :=
      asks_andThen hbuild fun snapshot => ⟨trivial, fun _ => trivial⟩
    exact asks_andThen hrefresh asks_surveyWith

/-- Writing asks for the batches that it was given. -/
theorem asks_writeBatches (id : String) (limit total : Nat) (batches : List Batch) (failed : Nat) :
    (writeBatches tenant id limit total batches failed).Asks fun q =>
      ∃ batch ∈ batches, q = .call (.write id batch) limit := by
  induction batches generalizing failed with
  | nil => trivial
  | cons batch rest ih =>
    have hrest : ∀ failed, (writeBatches tenant id limit total rest failed).Asks fun q =>
        ∃ b ∈ batch :: rest, q = .call (.write id b) limit := fun failed =>
      (ih failed).mono fun q ⟨b, hb, hq⟩ => ⟨b, List.mem_cons_of_mem _ hb, hq⟩
    refine ⟨⟨batch, List.mem_cons_self, rfl⟩, fun v => ?_⟩
    cases v with
    | answered r =>
      cases r with
      | ok _ => exact hrest failed
      | error e => exact hrest (failed + 1)
    | timedOut => exact hrest (failed + 1)
    | cancelled => trivial

/-- Carrying out writes the batches of the difference that was found to the surveyed store, and a dry
run does not even do that. -/
theorem asks_carryOut (found : Findings) : (carryOut settings tenant found).Asks fun q =>
    settings.dryRun = false ∧ ∃ batch ∈
        (TupleDiff.between found.desired found.actual).batches settings.writeBatchSize,
      q = .call (.write found.store batch) settings.batchTimeout := by
  refine asks_andThen ?_ fun summary => trivial
  split
  · trivial
  · next hdry =>
    refine (asks_writeBatches _ _ _ _ _).mono fun q hq => ⟨?_, hq⟩
    exact Bool.eq_false_iff.2 hdry

/-! ## How carrying out ends -/

/-- It fails with the cancellation or with a number of batches. -/
theorem yields_writeBatches (id : String) (limit total : Nat) (batches : List Batch)
    (failed : Nat) : (writeBatches tenant id limit total batches failed).Yields fun r =>
      ∀ e, r = .error e → e = .cancelled ∨ ∃ failed, e = .batches tenant failed total := by
  induction batches generalizing failed with
  | nil =>
    intro e he
    split at he
    · cases he
    · cases he
      exact .inr ⟨failed, rfl⟩
  | cons batch rest ih =>
    intro v
    cases v with
    | answered r =>
      cases r with
      | ok _ => exact ih failed
      | error e => exact ih (failed + 1)
    -- A batch that is not written in time counts as one that failed.
    | timedOut => exact ih (failed + 1)
    | cancelled =>
      intro e he
      cases he
      split
      · exact .inl rfl
      · exact .inr ⟨_, rfl⟩

/-- A pass that goes on with the result of another fails as that does, or ends as it goes on. -/
theorem Yields.andThen {α β : Type} {p : Pass α} {f : α → Pass β} {P : Except PassError β → Prop}
    (hp : p.Yields fun r => ∀ e, r = .error e → P (.error e)) (hf : ∀ a, (f a).Yields P) :
    (p.andThen f).Yields P :=
  hp.bind fun r hr => by
    cases r with
    | ok a => exact hf a
    | error e => exact hr e rfl

/-- Carrying out reports what was found, or fails because of a batch or a cancellation. -/
theorem yields_carryOut (found : Findings) : (carryOut settings tenant found).Yields fun
    | .ok report => ∃ batches, report = found.report tenant batches settings.dryRun
    | .error e => e = .cancelled ∨ ∃ failed total, e = .batches tenant failed total := by
  refine Yields.andThen ?_ fun summary => ⟨summary.batches, rfl⟩
  split
  · intro e he
    cases he
  · refine (yields_writeBatches _ _ _ _ _).mono fun r hr e he => ?_
    rcases hr e he with hcancelled | ⟨failed, hbatches⟩
    · exact .inl hcancelled
    · exact .inr ⟨failed, _, hbatches⟩

/-- A dry run carries nothing out and reports what it would do. -/
theorem carryOut_of_dryRun (hdry : settings.dryRun = true) (found : Findings) :
    carryOut settings tenant found = of (.ok (found.report tenant 0 true)) := by
  rw [carryOut, if_pos hdry, hdry]
  rfl

/-! ## All pages have been read -/

/-- The token of the page that follows an answered one, if it names one; nothing unless a page was
answered. -/
def nextPage? : Event Request Request.Answer → Option (Option String)
  | ⟨.call (.list _ _ _ _) _, .answered (.ok page)⟩ => some (nextToken page.next)
  | ⟨.call (.read _ _ _) _, .answered (.ok page)⟩ => some (nextToken page.next)
  | _ => none

/-- The events are those of reading pages from a token on, every one of which was answered, up to
one that names no other. -/
inductive PagesRead (request : Option String → Request) :
    Option String → List (Event Request Request.Answer) → Prop where
  | last {token : Option String} {a : (request token).Answer}
      (h : nextPage? ⟨request token, a⟩ = some none) : PagesRead request token [⟨request token, a⟩]
  | more {token : Option String} {a : (request token).Answer} {t : String}
      {events : List (Event Request Request.Answer)}
      (h : nextPage? ⟨request token, a⟩ = some (some t)) (hrest : PagesRead request (some t) events) :
      PagesRead request token (⟨request token, a⟩ :: events)

/-- The events of a survey with a snapshot: the store was opened, and all pages of the resources of
every kind and of the store were read. -/
def SurveyRead (settings : PassSettings) (tenant id : String)
    (events : List (Event Request Request.Answer)) : Prop :=
  ∃ resources tuples,
    events = ⟨.call (.openStore tenant) settings.pageTimeout, .answered (.ok id)⟩ ::
      (resources.flatten ++ tuples) ∧
    ResourceKind.namespaced.Forall₂
      (fun kind es => PagesRead (resourcesRequest settings tenant kind) none es) resources ∧
    PagesRead (tuplesRequest settings id) none tuples

/-- The events of a survey: all pages of global roles were read and a snapshot was published, unless
one is held, and then all pages of the tenant. -/
def ReadThrough (settings : PassSettings) (tenant : String) :
    Option Snapshot → String → List (Event Request Request.Answer) → Prop
  | some _, id, events => SurveyRead settings tenant id events
  | none, id, events => ∃ roles snapshot rest, events = roles ++ ⟨.publish snapshot, ()⟩ :: rest ∧
      PagesRead (rolesRequest settings) none roles ∧ SurveyRead settings tenant id rest

section Runs

variable {α β σ : Type} {W : Type u} {answers : W → (q : Request) → q.Answer → W → Prop} {w w' : W}
  {events : List (Event Request Request.Answer)}

/-- A pass of two parts has come to a good end when the first part has and then the second. -/
theorem runs_andThen_ok {p : Pass α} {f : α → Pass β} {b : β} :
    Runs answers (p.andThen f) w events (.done (.ok b)) w' ↔ ∃ a events₁ events₂ w₁,
      events = events₁ ++ events₂ ∧ Runs answers p w events₁ (.done (.ok a)) w₁ ∧
        Runs answers (f a) w₁ events₂ (.done (.ok b)) w' := by
  rw [andThen, runs_bind_done]
  constructor
  · rintro ⟨r, events₁, events₂, w₁, rfl, hfirst, hsecond⟩
    cases r with
    | ok a => exact ⟨a, events₁, events₂, w₁, rfl, hfirst, hsecond⟩
    | error e => cases (runs_done.1 hsecond).2.1
  · rintro ⟨a, events₁, events₂, w₁, rfl, hfirst, hsecond⟩
    exact ⟨.ok a, events₁, events₂, w₁, rfl, hfirst, hsecond⟩

/-- A page of resources that was taken in was answered. -/
theorem nextPage?_of_listed (take : Page Resource → Except PassError σ) {acc : σ}
    {kind : ResourceKind} {space : Option String} {size limit : Nat} {token next : Option String}
    {v : Verdict (Except ListError (Page Resource))}
    (h : (settle .listPage limit .list v >>= fun page => take page >>= fun acc =>
      pure (acc, nextToken page.next)) = .ok (acc, next)) :
    nextPage? ⟨.call (.list kind space size token) limit, v⟩ = some next := by
  obtain ⟨page, hpage, h⟩ := bind_eq_ok.1 h
  obtain ⟨_, -, h⟩ := bind_eq_ok.1 h
  cases h
  rw [settle_eq_ok hpage]
  rfl

/-- A page that was taken in says which one is next. -/
theorem nextPage?_of_absorbTuples {id : String} {actual actual' : TupleSet}
    {token next : Option String} {v : Verdict (Except StoreError (Page Tuple))}
    (h : absorbTuples settings actual token v = .ok (actual', next)) :
    nextPage? ⟨tuplesRequest settings id token, v⟩ = some next := by
  obtain ⟨page, hpage, h⟩ := bind_eq_ok.1 h
  cases h
  rw [settle_eq_ok hpage]
  rfl

/-- Pages that are followed to a good end: the last one names no other, and each of those before it
the next. -/
theorem induct_of_runs_pagesFrom {request : Option String → Request}
    {absorb : σ → (token : Option String) → (request token).Answer →
      Except PassError (σ × Option String)}
    {motive : σ → Option String → List (Event Request Request.Answer) → Prop}
    {acc out : σ} {token : Option String}
    (h : Runs answers (pagesFrom request absorb acc token) w events (of (.ok out)) w')
    (last : ∀ {acc token a}, absorb acc token a = .ok (out, none) →
      motive acc token [⟨request token, a⟩])
    (more : ∀ {acc token a acc' t events}, absorb acc token a = .ok (acc', some t) →
      motive acc' (some t) events → motive acc token (⟨request token, a⟩ :: events)) :
    motive acc token events := by
  generalize hstart : pagesFrom request absorb acc token = p at h
  generalize hend : (of (.ok out) : Pass σ) = p' at h
  induction h generalizing acc token with
  | refl =>
    subst hstart
    cases hend
  | ask hhead ha hrest ih =>
    subst hstart hend
    rw [head_pagesFrom] at hhead
    cases hhead
    dsimp only at hrest ih
    split at hrest
    · cases (runs_done.1 hrest).2.1
    · next habsorb =>
      obtain ⟨rfl, hout, -⟩ := runs_done.1 hrest
      cases hout
      exact last habsorb
    · next habsorb =>
      rw [habsorb] at ih
      exact more habsorb (ih rfl rfl)

/-- Pages that were followed to a good end have been read. -/
theorem pagesRead_of_runs {request : Option String → Request}
    {absorb : σ → (token : Option String) → (request token).Answer →
      Except PassError (σ × Option String)}
    {acc out : σ} {token : Option String}
    (h : Runs answers (pagesFrom request absorb acc token) w events (of (.ok out)) w')
    (hnext : ∀ acc token a acc' next, absorb acc token a = .ok (acc', next) →
      nextPage? ⟨request token, a⟩ = some next) :
    PagesRead request token events := by
  refine induct_of_runs_pagesFrom (motive := fun _ token events => PagesRead request token events) h
    ?_ ?_
  · intro acc token a habsorb
    exact .last (hnext _ _ _ _ _ habsorb)
  · intro acc token a acc' t events habsorb hrest
    exact .more (hnext _ _ _ _ _ habsorb) hrest

/-- A run that ends with the desired tuples has read every kind to its last page. -/
theorem kindsRead_of_runs {snapshot : Snapshot} {kinds : List ResourceKind}
    {desired out : TupleSet}
    (h : Runs answers (desiredOfKinds settings tenant snapshot kinds desired) w events
      (of (.ok out)) w') :
    ∃ chunks, events = chunks.flatten ∧
      kinds.Forall₂ (fun kind es => PagesRead (resourcesRequest settings tenant kind) none es)
        chunks := by
  induction kinds generalizing desired w events with
  | nil =>
    obtain ⟨rfl, -⟩ := runs_done.1 h
    exact ⟨[], rfl, .nil⟩
  | cons kind kinds ih =>
    rw [desiredOfKinds, desiredOfKind_eq] at h
    obtain ⟨mid, events₁, events₂, w₁, rfl, hkind, hrest⟩ := runs_andThen_ok.1 h
    obtain ⟨chunks, rfl, hchunks⟩ := ih hrest
    have hpages := pagesRead_of_runs hkind fun desired _ _ _ _ =>
      nextPage?_of_listed fun page => page.items.foldlM (addDesired snapshot.resolved) desired
    exact ⟨events₁ :: chunks, rfl, .cons hpages hchunks⟩

/-- A survey that ends well has read all that it depends on. -/
theorem surveyRead_of_runs {snapshot : Snapshot} {found : Findings}
    (h : Runs answers (surveyWith settings tenant snapshot) w events (of (.ok found)) w') :
    SurveyRead settings tenant found.store events := by
  obtain ⟨id, events₁, events₂, w₁, rfl, hopen, h⟩ := runs_andThen_ok.1 h
  obtain ⟨desired, events₃, events₄, w₂, rfl, hdesired, h⟩ := runs_andThen_ok.1 h
  obtain ⟨actual, events₅, events₆, w₃, rfl, hactual, h⟩ := runs_andThen_ok.1 h
  obtain ⟨rfl, hfound, -⟩ := runs_done.1 h
  cases hfound
  obtain ⟨chunks, rfl, hchunks⟩ := kindsRead_of_runs hdesired
  rw [actualTuples_eq] at hactual
  have htuples := pagesRead_of_runs hactual fun _ _ _ _ _ => nextPage?_of_absorbTuples
  cases hopen with
  | @ask _ _ _ _ v _ _ _ _ hhead _ hrest =>
    cases hhead
    obtain ⟨rfl, hid, -⟩ := runs_done.1 hrest
    have hv : v = .answered (.ok id) := settle_eq_ok (Script.done.inj hid).symm
    subst hv
    exact ⟨chunks, events₅, by simp, hchunks, htuples⟩

/-- A survey has found something only after it has read all pages. -/
theorem readThrough_of_runs {held : Option Snapshot} {found : Findings}
    (h : Runs answers (survey settings tenant held) w events (of (.ok found)) w') :
    ReadThrough settings tenant held found.store events := by
  cases held with
  | some snapshot => exact surveyRead_of_runs h
  | none =>
    obtain ⟨snapshot, events₁, events₂, w₁, rfl, hrefresh, hsurvey⟩ := runs_andThen_ok.1 h
    obtain ⟨built, events₃, events₄, w₂, rfl, hbuild, hpublish⟩ := runs_andThen_ok.1 hrefresh
    obtain ⟨roles, events₅, events₆, w₃, rfl, hroles, hsnapshot⟩ := runs_andThen_ok.1 hbuild
    obtain ⟨rfl, -⟩ := runs_done.1 hsnapshot
    rw [globalRoles_eq] at hroles
    have hpages := pagesRead_of_runs hroles fun roles _ _ _ _ =>
      nextPage?_of_listed fun page => page.items.foldlM Snapshot.addRole roles
    cases hpublish with
    | ask hhead _ hrest =>
      cases hhead
      obtain ⟨rfl, -⟩ := runs_done.1 hrest
      exact ⟨events₅, built, events₂, by simp, hpages, surveyRead_of_runs hsurvey⟩

end Runs

end PolicySync.Pass
