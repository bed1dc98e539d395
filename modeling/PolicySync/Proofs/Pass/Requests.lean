import PolicySync.Proofs.Memory.Desired
import PolicySync.Proofs.Pass.ReadFirst
import PolicySync.Proofs.TupleService.Wire
import PolicySync.TupleService.Client

/-!
# The write requests of a pass

Whatever the answers are, the desired tuples that a survey has found stand under their own keys
(`keyed_of_runs_survey`), and all that the pass writes are batches of the difference between them and
the stored tuples. So every request that the client sends for a write of a pass is one that the service
accepts (`write_requests_wellFormed`).
-/

namespace PolicySync

open Fallible
open Script (Runs Event runs_done)

namespace Pass

section Runs

variable {settings : PassSettings} {tenant : String} {W : Type u}
  {answers : W → (q : Request) → q.Answer → W → Prop} {w w' : W}
  {events : List (Event Request Request.Answer)}

/-- What taking in a page keeps is kept until the pages have been followed to a good end. -/
theorem of_runs_pagesFrom {σ : Type} {I : σ → Prop} {request : Option String → Request}
    {absorb : σ → (token : Option String) → (request token).Answer →
      Except PassError (σ × Option String)}
    {acc out : σ} {token : Option String}
    (h : Runs answers (pagesFrom request absorb acc token) w events (of (.ok out)) w')
    (hkeeps : ∀ acc token a acc' next, absorb acc token a = .ok (acc', next) → I acc → I acc')
    (hacc : I acc) : I out := by
  refine induct_of_runs_pagesFrom (motive := fun acc _ _ => I acc → I out) h ?_ ?_ hacc
  · intro acc token a habsorb
    exact hkeeps _ _ _ _ _ habsorb
  · intro acc token a acc' t events habsorb hrest hacc
    exact hrest (hkeeps _ _ _ _ _ habsorb hacc)

/-- The tuples of a page of resources stand under their own keys. -/
theorem keyed_of_absorbResources {snapshot : Snapshot} {desired desired' : TupleSet}
    {token next : Option String} {v : Verdict (Except ListError (Page Resource))}
    (h : absorbResources settings snapshot desired token v = .ok (desired', next))
    (hkeyed : desired.Keyed) : desired'.Keyed := by
  obtain ⟨page, -, h⟩ := bind_eq_ok.1 h
  obtain ⟨taken, htaken, h⟩ := bind_eq_ok.1 h
  cases h
  obtain ⟨tuples, -, rfl⟩ := foldlM_addDesired_eq_ok_iff.1 htaken
  exact hkeyed.insertTuples _

/-- Whatever the answers are, the desired tuples are filed under their keys. -/
theorem keyed_of_runs_desiredOfKinds {snapshot : Snapshot} {kinds : List ResourceKind}
    {desired out : TupleSet}
    (h : Runs answers (desiredOfKinds settings tenant snapshot kinds desired) w events
      (of (.ok out)) w') (hkeyed : desired.Keyed) : out.Keyed := by
  induction kinds generalizing desired w events with
  | nil =>
    obtain ⟨-, hout, -⟩ := runs_done.1 h
    cases hout
    exact hkeyed
  | cons kind kinds ih =>
    rw [desiredOfKinds, desiredOfKind_eq] at h
    obtain ⟨mid, events₁, events₂, w₁, rfl, hkind, hrest⟩ := runs_andThen_ok.1 h
    exact ih hrest (of_runs_pagesFrom hkind (fun _ _ _ _ _ => keyed_of_absorbResources) hkeyed)

/-- So they are after a survey with a snapshot. -/
theorem keyed_of_runs_surveyWith {snapshot : Snapshot} {found : Findings}
    (h : Runs answers (surveyWith settings tenant snapshot) w events (of (.ok found)) w') :
    found.desired.Keyed := by
  obtain ⟨id, events₁, events₂, w₁, rfl, -, h⟩ := runs_andThen_ok.1 h
  obtain ⟨desired, events₃, events₄, w₂, rfl, hdesired, h⟩ := runs_andThen_ok.1 h
  obtain ⟨actual, events₅, events₆, w₃, rfl, -, h⟩ := runs_andThen_ok.1 h
  obtain ⟨rfl, hfound, -⟩ := runs_done.1 h
  cases hfound
  exact keyed_of_runs_desiredOfKinds hdesired (TupleSet.keyed_ofTuples _)

/-- So they are after one that builds it. -/
theorem keyed_of_runs_survey {held : Option Snapshot} {found : Findings}
    (h : Runs answers (survey settings tenant held) w events (of (.ok found)) w') :
    found.desired.Keyed := by
  cases held with
  | some snapshot => exact keyed_of_runs_surveyWith h
  | none =>
    obtain ⟨snapshot, events₁, events₂, w₁, rfl, -, hsurvey⟩ := runs_andThen_ok.1 h
    exact keyed_of_runs_surveyWith hsurvey

/-- What a pass writes is a batch of the difference between two sets. -/
theorem exists_between_of_runs {held : Option Snapshot} {rest : Pass TenantReport}
    (h : Runs answers (tenantPass settings tenant held) w events rest w')
    {e : Event Request Request.Answer} (he : e ∈ events) {store : String} {batch : Batch}
    {timeout : Nat} (hwrite : e.1 = .call (.write store batch) timeout) :
    ∃ desired actual : TupleSet, desired.Keyed ∧
      batch ∈ (TupleDiff.between desired actual).batches settings.writeBatchSize := by
  have hnone : ¬ Surveys tenant e.1 := by
    rw [hwrite]
    exact id
  rcases of_runs_tenantPass h with ⟨left, -, hsurvey⟩ |
    ⟨found, reading, writes, w₁, rfl, hsurvey, hwrites⟩
  · exact absurd (((asks_survey held).runs hsurvey).1 e he) hnone
  · rcases List.mem_append.1 he with he | he
    · exact absurd (((asks_survey held).runs hsurvey).1 e he) hnone
    · obtain ⟨-, b, hb, hcall⟩ := ((asks_carryOut found).runs hwrites).1 e he
      rw [hwrite] at hcall
      cases hcall
      exact ⟨found.desired, found.actual, keyed_of_runs_survey hsurvey, hb⟩

end Runs

end Pass

namespace TupleService

/-- For a batch the client sends one request, and the service accepts its body as one that makes the
changes of the batch. -/
def Client.SendsWellFormed (c : Client) (limit : Nat) (store : String) (batch : Batch) : Prop :=
  ∃ request body next, c.write store batch = .ask (.send request) next ∧
    (∀ outcome, ∃ r, next outcome = .done r) ∧ request.body = some body ∧
    WellFormed limit batch c.modelId body

/-- The batches of a difference go out in well-formed bodies. -/
theorem Client.sendsWellFormed {desired actual : TupleSet} {limit : Nat} {batch : Batch}
    (c : Client) (store : String) (h : desired.Keyed)
    (hbatch : batch ∈ (TupleDiff.between desired actual).batches limit) :
    c.SendsWellFormed limit store batch :=
  ⟨_, _, _, rfl, fun _ => ⟨_, rfl⟩, rfl, wellFormed_of_mem_batches c.modelId h hbatch⟩

end TupleService

/-- For every batch of the difference between two sets, whatever the limit and the authorization model
are, the client sends one request, with a body that is well formed: it holds at least one key and no
more than the limit, no side is empty, no key comes twice, nothing is deleted under a condition, and
what is read back from it is the batch. All that a pass writes are such batches. -/
theorem write_requests_wellFormed :
    (∀ (desired actual : TupleSet) (limit : Nat) (batch : Batch), desired.Keyed →
      batch ∈ (TupleDiff.between desired actual).batches limit →
      ∀ (c : TupleService.Client) (store : String), c.SendsWellFormed limit store batch) ∧
    ∀ (settings : PassSettings) (tenant : String) (held : Option Snapshot) {W : Type}
      {answers : W → (q : Request) → q.Answer → W → Prop} {w w' : W}
      {events : List (Event Request Request.Answer)} {rest : Pass TenantReport},
      Runs answers (Pass.tenantPass settings tenant held) w events rest w' →
      ∀ e ∈ events, ∀ store batch timeout, e.1 = .call (.write store batch) timeout →
        ∀ c : TupleService.Client, c.SendsWellFormed settings.writeBatchSize store batch := by
  refine ⟨fun desired actual limit batch h hbatch c store => c.sendsWellFormed store h hbatch, ?_⟩
  intro settings tenant held W answers w w' events rest hrun e he store batch timeout hwrite c
  obtain ⟨desired, actual, h, hbatch⟩ := Pass.exists_between_of_runs hrun he hwrite
  exact c.sendsWellFormed store h hbatch

/-- Two members, one of them on a condition. -/
def shiftMembers : List Tuple := [
  .relate "user:alice" "member" "team:ops",
  { key := { user := "user:bob", relation := "member", object := "team:ops" }
    condition := some { name := "in_hours", context := some ⟨.object [("tz", .str "UTC")], rfl⟩ } }]

/-- With two members to write and one to delete, a limit of two makes a batch of the former, and its
body has no deletes. -/
theorem write_requests_wellFormed_shift :
    ∃ body next, ({ baseUrl := "http://fga" } : TupleService.Client).write "s1"
          { writes := shiftMembers } =
        .ask (.send { method := .post, target := "http://fga/stores/s1/write", body := some body })
          next ∧
      TupleService.WellFormed 2 { writes := shiftMembers } none body ∧
      (TupleService.sideKeys body "writes").mapM Tuple.decode = .ok shiftMembers ∧
      body.field? "deletes" = none := by
  have hdiff : TupleDiff.between (.ofTuples shiftMembers)
      (.ofTuples [.relate "user:dan" "member" "team:ops"]) =
        { additions := shiftMembers, deletions := [⟨"user:dan", "member", "team:ops"⟩] } := by rfl
  have hbatch : { writes := shiftMembers } ∈ (TupleDiff.between (.ofTuples shiftMembers)
      (.ofTuples [.relate "user:dan" "member" "team:ops"])).batches 2 := by
    rw [hdiff]
    simp [TupleDiff.batches, TupleDiff.isEmpty, TupleDiff.size, runsOf, shiftMembers]
  obtain ⟨request, body, next, hwrite, -, hbody, hwell⟩ :=
    write_requests_wellFormed.1 _ _ 2 _ (TupleSet.keyed_ofTuples _) hbatch
      { baseUrl := "http://fga" } "s1"
  cases hwrite
  cases hbody
  refine ⟨_, _, rfl, hwell, ?_, rfl⟩
  apply hwell.writesExactly
  simp [shiftMembers, Tuple.HasNullContext, Condition.HasNullContext, Tuple.relate]

end PolicySync
