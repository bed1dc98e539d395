import PolicySync.Proofs.TupleService.Stores
import PolicySync.Simulation.Trials

/-!
# Requests that are sent again

A client asks for a page of tuples or of stores as often as its retry policy says
(`Client.sendsAgain_of_repeats`). Which outcomes are worth another attempt is decided in three
places: a status either stands for one of the errors with a name or is kept (`accepted`), the errors
are passing or not (`ServiceError.isPassing`), and so are the statuses that are kept
(`Http.isRetryable`). Together they say what `Passing` does (`passes_received_iff`). A body that
cannot be read is no reason to ask again.

The requests that change something, to write and to create a store, are sent once.

The factor of a policy can be any number, and nothing keeps a wait from being less than zero. Then
the attempts break down where another one is due (`run_negativeFactor`).
-/

namespace PolicySync.TupleService

variable {S : Type} {α β : Type}

/-! ## Which outcomes are passing -/

/-- The same request may succeed when it is sent again. -/
def Passing : Http.Outcome → Prop
  | .reply r => r.status ∈ [408, 429, 500, 502, 503, 504]
  | .timedOut | .unreachable => True
  | .interrupted => False

/-- A reply is worth another attempt when its status is. -/
theorem passes_accepted_iff {r : Http.Reply} :
    Http.passes ServiceError.isPassing (accepted r) = true ↔ Passing (.reply r) := by
  rw [accepted, Passing]
  split_ifs with hsuccess hrefused hlimited
  · simp only [Http.isSuccess, Bool.and_eq_true, decide_eq_true_eq] at hsuccess
    simp only [Http.passes, Bool.false_eq_true, List.mem_cons, List.not_mem_nil, or_false,
      false_iff]
    omega
  · rcases hrefused with h | h <;> simp [Http.passes, ServiceError.isPassing, h]
  · simp [Http.passes, ServiceError.isPassing, hlimited]
  · simp [Http.passes, ServiceError.isPassing, Http.isRetryable]

/-- An outcome is when it is such a reply or none at all. -/
theorem passes_settled_iff {o : Http.Outcome} :
    Http.passes ServiceError.isPassing (settled o) = true ↔ Passing o := by
  cases o with
  | reply r => exact passes_accepted_iff
  | timedOut | unreachable | interrupted =>
    simp [settled, Http.passes, ServiceError.isPassing, Passing]

/-- Whatever there is to be read in a reply, it is no reason to ask again. -/
theorem passes_received_iff {decode : Json.Decoder α} {o : Http.Outcome} :
    Http.passes ServiceError.isPassing (received decode o) = true ↔ Passing o := by
  rw [← passes_settled_iff, received]
  cases settled o with
  | error e => rfl
  | ok r =>
    simp only [bind, Except.bind]
    cases r.json with
    | none => exact Iff.rfl
    | some v =>
      dsimp only
      cases decode v <;> exact Iff.rfl

/-! ## How often a request is sent -/

namespace Client

/-- In every session the script sends a request as often as the retry policy says, with one wait
between each time and the next, and goes on with the last outcome. The waits that are due have to be
lengths of time. -/
def SendsAgain (c : Client) (request : Http.Request) (decode : Json.Decoder α)
    (script : Procedure β) (leave : Except ServiceError α → Procedure β) : Prop :=
  ∀ {S : Type} (v : Service S) (w : Session S),
    let outcome k := received decode (v.outcome request w.service k)
    (c.repetition request decode).CanWait outcome →
    ∃ failed, (c.repetition request decode).attempts outcome = failed + 1 ∧
      ∀ log r w' log', Script.Ends (Script.recording v.answer) script (w, log) r (w', log') ↔
        Script.Ends (Script.recording v.answer) (leave (outcome failed))
          (w.extend (v.after request w.service (failed + 1))
              (v.exchanges request w.service (failed + 1)),
            log ++ (c.repetition request decode).course failed ++ [.send request]) r (w', log')

/-- What repeats its attempts sends the request again. -/
theorem sendsAgain_of_repeats {c : Client} {request : Http.Request} {decode : Json.Decoder α}
    {tries : Nat → Procedure β} {leave : Except ServiceError α → Procedure β}
    (h : (c.repetition request decode).Repeats tries leave) :
    c.SendsAgain request decode (tries 0) leave := by
  intro S v w outcome hwait
  obtain ⟨failed, hall⟩ : ∃ failed, (c.repetition request decode).attempts outcome = failed + 1 :=
    ⟨_, rfl⟩
  refine ⟨failed, hall, fun log r w' log' => ?_⟩
  have hsettles : (c.repetition request decode).Settles
      ((c.repetition request decode).outcome v.answer w) (failed + 1) (outcome failed) := by
    rw [outcome_repetition]
    exact .last hwait hall
  rw [h.ends_recording_iff hsettles, worlds_repetition, ← Service.send_extend]
  rfl

/-- The request for a page of tuples. -/
def readRequest (c : Client) (store : String) (pageSize : Nat) (token : Option String) :
    Http.Request where
  method := .post
  target := c.baseUrl ++ ("/stores/" ++ store ++ "/read")
  query := []
  body := some (.object (("page_size", .int pageSize) ::
    (token.map fun t => ("continuation_token", .str t)).toList))
  token := c.apiToken

/-- The request that makes the changes of a batch. -/
def writeRequest (c : Client) (store : String) (batch : Batch) : Http.Request where
  method := .post
  target := c.baseUrl ++ ("/stores/" ++ store ++ "/write")
  query := []
  body := some (encodeWrite batch c.modelId)
  token := c.apiToken

/-- To read a page is to repeat the request for it. -/
theorem read_eq_rest (c : Client) (store : String) (pageSize : Nat) (token : Option String) :
    c.read store pageSize token =
      (c.repetition (c.readRequest store pageSize token) decodeTuples).rest 0 := by
  cases token <;> rfl

/-- A page of tuples is asked for again as the retry policy says. -/
theorem sendsAgain_read (c : Client) (store : String) (pageSize : Nat) (token : Option String) :
    c.SendsAgain (c.readRequest store pageSize token) decodeTuples
      (c.read store pageSize token) .done := by
  rw [read_eq_rest]
  exact sendsAgain_of_repeats (Http.Repetition.repeats_rest _)

/-- A page of stores is asked for again. -/
theorem sendsAgain_findStoreFrom (c : Client) (name : String) (token : Option String) :
    c.SendsAgain (c.pageRequest token) decodeStores (c.findStoreFrom name token 0)
      (c.afterAttempts name) :=
  sendsAgain_of_repeats (repeats_findStoreFrom c name token)

/-- The request is sent once, whatever the outcome is. -/
theorem ends_write (v : Service S) (c : Client) (w : Session S) (store : String) (batch : Batch) :
    Script.Ends (Script.recording v.answer) (c.write store batch) (w, [])
      ((settled (v.exchange (c.writeRequest store batch) w.service).1).map fun _ => ())
      (v.send (c.writeRequest store batch) w, [.send (c.writeRequest store batch)]) :=
  .ask rfl (.done rfl)

/-- The request is sent once, whatever the outcome is. -/
theorem ends_createStore (v : Service S) (c : Client) (w : Session S) (name : String) :
    Script.Ends (Script.recording v.answer) (c.createStore name) (w, [])
      (received Store.decode (v.exchange (c.createRequest name) w.service).1)
      (v.send (c.createRequest name) w, [.send (c.createRequest name)]) :=
  .ask rfl (.done rfl)

end Client

/-- A policy asks for as many attempts as there are up to the first that does not fail for a passing
reason, and for no more than it allows. So many are made by `retry`, with one wait between each and
the next, and the last one decides, as long as every wait that is due is a length of time. Requests
for pages of tuples and of stores are sent so often, and in a look-up this holds of every page; a
request that writes or creates is sent once. -/
theorem requests_sent_again :
    (∀ (p : Http.RetryPolicy) (passing : Nat → Bool),
      (∀ k, (∀ j < k, passing j = true) → passing k = false →
        p.attempts passing = min (k + 1) (max p.maxAttempts 1)) ∧
      ((∀ k, passing k = true) → p.attempts passing = max p.maxAttempts 1)) ∧
    (∀ {Q : Type} {A : Q → Type} {ε α W : Type} (r : Http.Repetition Q A ε α)
      (answer : (q : Q) → W → A q × W) (w : W), r.CanWait (r.outcome answer w) →
      ∃ failed w', r.attempts (r.outcome answer w) = failed + 1 ∧
        Script.Ends (Script.recording answer)
          (Http.retry r.policy r.attempt r.wait r.read r.isPassing r.broken) (w, [])
          (r.outcome answer w failed) (w', r.course failed ++ [r.attempt])) ∧
    (∀ {α : Type} (decode : Json.Decoder α) (o : Http.Outcome),
      Http.passes ServiceError.isPassing (received decode o) = true ↔ Passing o) ∧
    ∀ c : Client,
      (∀ store pageSize token, c.SendsAgain (c.readRequest store pageSize token) decodeTuples
        (c.read store pageSize token) .done) ∧
      (∀ name token, c.SendsAgain (c.pageRequest token) decodeStores
        (c.findStoreFrom name token 0) (c.afterAttempts name)) ∧
      ∀ {S : Type} (v : Service S) (w : Session S),
        (∀ name, v.ListEnds c none w.service → ∃ es result s,
          Script.Ends v.answer (c.provideStore name) w result (w.extend s es) ∧
            c.Provision name es result) ∧
        (∀ name, Script.Ends (Script.recording v.answer) (c.createStore name) (w, [])
          (received Store.decode (v.exchange (c.createRequest name) w.service).1)
          (v.send (c.createRequest name) w, [.send (c.createRequest name)])) ∧
        ∀ store batch, Script.Ends (Script.recording v.answer) (c.write store batch) (w, [])
          ((settled (v.exchange (c.writeRequest store batch) w.service).1).map fun _ => ())
          (v.send (c.writeRequest store batch) w, [.send (c.writeRequest store batch)]) := by
  refine ⟨fun p passing => ⟨fun k => Http.RetryPolicy.attempts_eq_min,
    Http.RetryPolicy.attempts_eq_max⟩, fun r answer w hwait => ?_, fun decode o =>
    passes_received_iff, fun c => ⟨c.sendsAgain_read, c.sendsAgain_findStoreFrom, fun v w =>
    ⟨fun name hlist => ?_, c.ends_createStore v w, c.ends_write v w⟩⟩⟩
  · exact ⟨_, _, rfl, r.ends_script answer w (.last hwait rfl)⟩
  · obtain ⟨es, result, s, hends, hprovision, -⟩ := exists_provision hlist name
    exact ⟨es, result, s, hends, hprovision⟩

/-- The first two attempts fail in passing, so a page of tuples is asked for three times, and likewise
a page of stores. -/
theorem requests_sent_again_twice :
    let c : Client := { baseUrl := "http://stores" }
    let tuples := c.readRequest "s1" 100 none
    let stores := c.pageRequest none
    let w : Session Simulation.Server :=
      { service := { outcomes := [.reply { status := 503 }, .timedOut,
          .reply { status := 200, json := some (.object []) }] } }
    ({} : Http.RetryPolicy).attempts (fun _ => true) = max 3 1 ∧
    (∃ w', Script.Ends (Script.recording scripted.answer) (c.read "s1" 100 none) (w, [])
      (.ok ⟨[], none⟩) (w', [.send tuples, .wait 200, .send tuples, .wait 400, .send tuples])) ∧
    (∃ w', Script.Ends (Script.recording scripted.answer) (c.findStore "x") (w, [])
      (.ok none) (w', [.send stores, .wait 200, .send stores, .wait 400, .send stores])) ∧
    ∃ es result s, Script.Ends scripted.answer (c.provideStore "x") w result (w.extend s es) ∧
      c.Provision "x" es result := by
  intro c tuples stores w
  obtain ⟨hcount, hretry, -, hclient⟩ := requests_sent_again
  obtain ⟨-, hpages, hservice⟩ := hclient c
  have hcourse : ∀ {α : Type} (request : Http.Request) (decode : Json.Decoder α),
      (c.repetition request decode).course 2 ++ [.send request] =
        [.send request, .wait 200, .send request, .wait 400, .send request] := by
    intro α request decode
    have hwaits : c.retry.delay 0 = 200 ∧ c.retry.delay 1 = 400 := by decide +kernel
    simp [Http.Repetition.course, List.range_succ, Client.repetition, hwaits]
  refine ⟨(hcount {} _).2 fun _ => rfl, ?_, ?_, (hservice scripted w).1 "x" ?_⟩
  · obtain ⟨failed, w', hfailed, hends⟩ :=
      hretry (c.repetition tuples decodeTuples) scripted.answer w
        (Http.Repetition.canWait_of_default rfl _)
    have hthree : (c.repetition tuples decodeTuples).attempts
        ((c.repetition tuples decodeTuples).outcome scripted.answer w) = 3 := by
      refine (hcount {} _).1 2 (fun j hj => ?_) rfl
      rcases (by omega : j = 0 ∨ j = 1) with rfl | rfl <;> rfl
    obtain rfl : failed = 2 := Nat.succ.inj (hfailed.symm.trans hthree)
    exact ⟨w', hcourse tuples decodeTuples ▸ hends⟩
  · obtain ⟨failed, hfailed, hends⟩ :=
      hpages "x" none scripted w (Http.Repetition.canWait_of_default rfl _)
    have hthree : (c.repetition stores decodeStores).attempts
        (fun k => received decodeStores (scripted.outcome stores w.service k)) = 3 := by
      refine (hcount {} _).1 2 (fun j hj => ?_) rfl
      rcases (by omega : j = 0 ∨ j = 1) with rfl | rfl <;> rfl
    obtain rfl : failed = 2 := Nat.succ.inj (hfailed.symm.trans hthree)
    have hends' := (hends [] (.ok none) _ _).2 (.done rfl)
    rw [List.nil_append, hcourse (c.pageRequest none) decodeStores] at hends'
    exact ⟨_, hends'⟩
  · refine listEnds_scripted c none fun page hpage => ?_
    cases hpage

/-- The wait after the second attempt would be less than zero, so the attempts that the policy asks
for are not all made, and what comes of them is the outcome of none. -/
theorem run_negativeFactor :
    ∃ times,
      Simulation.Trials.run
          { maxAttempts := 3, baseDelay := 100000000, maxDelay := 1000000000, factor := -1,
            jitter := false } [.passing, .passing, .success] =
        some (.error .brokenDown, times) ∧
      times.length < min 3 (max 3 1) :=
  ⟨[0, 100], by decide +kernel, by decide⟩

end PolicySync.TupleService
