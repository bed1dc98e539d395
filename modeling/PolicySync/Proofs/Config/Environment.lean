import PolicySync.Config.Environment
import PolicySync.Proofs.Config.Setting
import PolicySync.Proofs.Text.Numeral
import PolicySync.Proofs.Text.Pieces

/-!
# What variables say about settings

Every setting has a variable of its own (`Setting.variableName`), and `Setting.Means` says which value a
text stands for there. The variables make up a layer just when those of the eight numbers are unset or
write numbers of their ranges; the first one that is neither decides the error. Then each setting in the
layer is as its own variable says, whatever the others hold (`layer_of_variables`).
-/

namespace PolicySync

open Fallible

namespace Text

/-- A text is a word of small letters in some casing, each letter being small or capital. -/
def IsCasing (s word : String) : Prop :=
  List.Forall₂ (fun c w => c = w ∨ c = w.toUpper) s.toList word.toList

/-- Only the Latin capitals have another lower case here, by code points. -/
theorem toNat_toLower (c : Char) :
    c.toLower.toNat = if 65 ≤ c.toNat ∧ c.toNat ≤ 90 then c.toNat + 32 else c.toNat := by
  unfold Char.toLower
  split
  · next h =>
    have hcapital : 65 ≤ c.toNat ∧ c.toNat ≤ 90 := h
    have hsum : (c.val + ('a'.val - 'A'.val)).toNat = (c.val.toNat + 32) % 2 ^ 32 :=
      UInt32.toNat_add ..
    rw [if_pos hcapital]
    refine hsum.trans (Nat.mod_eq_of_lt ?_)
    have hle : c.val.toNat ≤ 90 := hcapital.2
    omega
  · next h => exact (if_neg h).symm

/-- The characters that become a small letter are the letter and its capital. -/
theorem toLower_eq_iff {c w capital : Char} (hw : 97 ≤ w.toNat ∧ w.toNat ≤ 122)
    (hcapital : capital.toNat + 32 = w.toNat) : c.toLower = w ↔ c = w ∨ c = capital := by
  rw [← Char.toNat_inj, ← Char.toNat_inj, ← Char.toNat_inj, toNat_toLower]
  split <;> omega

/-- A text is a word in lower case when every character is one of the word in either case. -/
theorem map_toLower_eq_iff {cs ws : List Char}
    (hws : ∀ w ∈ ws, (97 ≤ w.toNat ∧ w.toNat ≤ 122) ∧ w.toUpper.toNat + 32 = w.toNat) :
    cs.map Char.toLower = ws ↔ List.Forall₂ (fun c w => c = w ∨ c = w.toUpper) cs ws := by
  induction ws generalizing cs with
  | nil => rw [List.map_eq_nil_iff, List.forall₂_nil_right_iff]
  | cons w ws ih =>
    obtain ⟨⟨hsmall, hcapital⟩, hrest⟩ := List.forall_mem_cons.1 hws
    rw [List.map_eq_cons_iff, List.forall₂_cons_right_iff]
    constructor
    · rintro ⟨c, cs, rfl, hc, hcs⟩
      exact ⟨c, cs, (toLower_eq_iff hsmall hcapital).1 hc, (ih hrest).1 hcs, rfl⟩
    · rintro ⟨c, cs, hc, hcs, rfl⟩
      exact ⟨c, cs, rfl, (toLower_eq_iff hsmall hcapital).2 hc, (ih hrest).2 hcs⟩

end Text

namespace Environment

variable {env : Environment} {name text : String} {range : NumberRange}

/-- A variable is set to a text. One that is empty is not set. -/
structure Sets (env : Environment) (name text : String) : Prop where
  get?_eq : env.get? name = some text
  ne : text ≠ ""

/-- A variable has a value when it is set to a text that is not empty. -/
theorem value?_eq_some_iff : env.value? name = some text ↔ env.Sets name text := by
  rw [value?, Option.filter_eq_some_iff, decide_eq_true_eq]
  exact ⟨fun ⟨hget, hne⟩ => ⟨hget, hne⟩, fun h => ⟨h.get?_eq, h.ne⟩⟩

/-! ## Switches and lists -/

/-- A text is on when it is the digit one or the word in any case. -/
theorem isOn_iff : isOn text = true ↔ text = "1" ∨ Text.IsCasing text "true" := by
  rw [isOn, Bool.or_eq_true, decide_eq_true_eq, decide_eq_true_eq, or_comm,
    Text.map_toLower_eq_iff (by simp)]
  rfl

/-- A switch follows its variable. -/
theorem switch_eq_some_iff {b : Bool} : env.switch name = some b ↔
    ∃ text, env.Sets name text ∧ (b = true ↔ text = "1" ∨ Text.IsCasing text "true") := by
  rw [switch, Option.map_eq_some_iff]
  refine exists_congr fun text => and_congr value?_eq_some_iff ?_
  rw [← isOn_iff, Bool.eq_iff_iff]
  exact iff_comm

/-- The items of a text are what is left of the pieces between commas when blanks at their ends are
dropped, those of which nothing is left apart. -/
def Lists (text : String) (items : List String) : Prop :=
  ∃ pieces cores : List String, pieces ≠ [] ∧ ",".intercalate pieces = text ∧
    (∀ piece ∈ pieces, ',' ∉ piece.toList) ∧
    List.Forall₂ (fun piece core => Text.Encloses piece.toList core.toList) pieces cores ∧
    items = cores.filter (· ≠ "")

/-- Empty pieces may be left out before or after they are made texts. -/
theorem filter_map_ofList (css : List (List Char)) :
    (css.filter (· ≠ [])).map String.ofList = (css.map String.ofList).filter (· ≠ "") := by
  rw [List.filter_map]
  refine congrArg _ (List.filter_congr fun cs _ => ?_)
  simp

/-- The items of a text are the pieces between commas, trimmed, without the empty ones. -/
theorem items_eq_iff {items : List String} : Environment.items text = items ↔ Lists text items := by
  constructor
  · rintro rfl
    obtain ⟨hne, hglued, hcommas⟩ := Text.pieces_eq_iff.1 (Eq.refl (Text.pieces ',' text.toList))
    refine ⟨(Text.pieces ',' text.toList).map String.ofList,
      ((Text.pieces ',' text.toList).map Text.trim).map String.ofList, ?_, ?_, ?_, ?_, ?_⟩
    · simpa using hne
    · rw [← String.toList_inj, String.toList_intercalate, List.map_map]
      simpa [Function.comp_def] using hglued
    · simpa using hcommas
    · rw [List.map_map, List.forall₂_map_left_iff, List.forall₂_map_right_iff, List.forall₂_same]
      intro piece _
      rw [Function.comp_apply, String.toList_ofList, String.toList_ofList]
      exact Text.encloses_trim piece
    · exact filter_map_ofList _
  · rintro ⟨pieces, cores, hne, rfl, hcommas, hcores, rfl⟩
    have hpieces : Text.pieces ',' (",".intercalate pieces).toList = pieces.map String.toList := by
      refine Text.pieces_eq_iff.2 ⟨by simpa using hne, ?_, by simpa using hcommas⟩
      rw [String.toList_intercalate]
      rfl
    have htrimmed : pieces.map (fun piece => String.ofList (Text.trim piece.toList)) = cores := by
      rw [← List.forall₂_eq_eq_eq, List.forall₂_map_left_iff]
      refine hcores.imp fun piece core hcore => ?_
      rw [Text.trim_eq_iff.2 hcore, String.ofList_toList]
    rw [Environment.items, hpieces, filter_map_ofList, List.map_map, List.map_map]
    exact congrArg _ htrimmed

/-- A list follows its variable. -/
theorem list_eq_some_iff {items : List String} : env.list name = some items ↔
    ∃ text, env.Sets name text ∧ Lists text items := by
  simp only [list, Option.map_eq_some_iff, value?_eq_some_iff, items_eq_iff]

/-! ## Numbers -/

/-- A number is read from what its variable is set to. -/
theorem number_eq_ok {a : Option Nat} (h : env.number range name = .ok a) (n : Nat) :
    a = some n ↔ ∃ text, env.Sets name text ∧ Text.Writes text n := by
  rw [number] at h
  split at h
  · next hnone =>
    cases h
    simp only [← value?_eq_some_iff, hnone]
    simp
  · next text hset =>
    split at h
    · next m hread =>
      cases h
      have hm := (Text.natural?_eq_some_iff.1 hread).1
      simp only [← value?_eq_some_iff, hset, Option.some.injEq, exists_eq_left']
      exact ⟨fun heq => heq ▸ hm, hm.unique⟩
    · cases h

/-- A variable that is set to anything but a number of its range cannot be read. -/
theorem number_eq_error_iff {e : ConfigError} : env.number range name = .error e ↔
    ∃ text, env.Sets name text ∧ (¬ ∃ n < range.bound, Text.Writes text n) ∧
      e = .notANumber name range text := by
  have hread : ∀ text, (∃ n < range.bound, Text.Writes text n) ↔
      ∃ n, Text.natural? range.bound text = some n := by
    simp only [Text.natural?_eq_some_iff, and_comm, implies_true]
  simp only [hread, ← value?_eq_some_iff]
  rw [number]
  split
  · next hnone => simp [hnone]
  · next text hset =>
    split
    · next n hn => simp [hset, hn]
    · next hn => simp [hset, hn, eq_comm]

end Environment

/-! ## Settings and their variables -/

namespace Setting

/-- The variable that a setting is read from. -/
def variableName : {α : Type} → Setting α → String
  | _, writeBatchSize => "RELSYNC_RECONCILER_WRITE_BATCH_SIZE"
  | _, listPageSize => "RELSYNC_RECONCILER_LIST_PAGE_SIZE"
  | _, readPageSize => "RELSYNC_RECONCILER_READ_PAGE_SIZE"
  | _, interval => "RELSYNC_RECONCILER_INTERVAL_SECS"
  | _, pageTimeout => "RELSYNC_RECONCILER_PAGE_TIMEOUT_SECS"
  | _, batchTimeout => "RELSYNC_RECONCILER_BATCH_TIMEOUT_SECS"
  | _, tenantConcurrency => "RELSYNC_RECONCILER_TENANT_CONCURRENCY"
  | _, dryRun => "RELSYNC_RECONCILER_DRY_RUN"
  | _, tenants => "RELSYNC_RECONCILER_TENANTS"
  | _, url => "RELSYNC_OPENFGA_URL"
  | _, apiToken => "RELSYNC_OPENFGA_API_TOKEN"
  | _, modelId => "RELSYNC_OPENFGA_AUTHORIZATION_MODEL_ID"
  | _, storePrefix => "RELSYNC_OPENFGA_STORE_PREFIX"
  | _, requestTimeout => "RELSYNC_OPENFGA_REQUEST_TIMEOUT_SECS"
  | _, group => "RELSYNC_KUBE_GROUP"
  | _, version => "RELSYNC_KUBE_VERSION"
  | _, tenantSelector => "RELSYNC_KUBE_TENANT_LABEL_SELECTOR"
  | _, level => "RELSYNC_LOGGING_LEVEL"
  | _, json => "RELSYNC_LOGGING_JSON"

/-- A text means a value of a setting. -/
def Means : {α : Type} → Setting α → String → α → Prop
  | _, writeBatchSize => Text.Writes
  | _, listPageSize => Text.Writes
  | _, readPageSize => Text.Writes
  | _, interval => Text.Writes
  | _, pageTimeout => Text.Writes
  | _, batchTimeout => Text.Writes
  | _, tenantConcurrency => Text.Writes
  | _, dryRun => fun text b => b = true ↔ text = "1" ∨ Text.IsCasing text "true"
  | _, tenants => Environment.Lists
  | _, url => Eq
  | _, apiToken => Eq
  | _, modelId => Eq
  | _, storePrefix => Eq
  | _, requestTimeout => Text.Writes
  | _, group => Eq
  | _, version => Eq
  | _, tenantSelector => Eq
  | _, level => Eq
  | _, json => fun text b => b = true ↔ text = "1" ∨ Text.IsCasing text "true"

/-- The settings that are numbers, each with its range, in the order in which they are read. -/
def numbers : List (Setting Nat × NumberRange) := [
  (writeBatchSize, ⟨"usize", Nat.pow 2 64⟩),
  (listPageSize, ⟨"u32", Nat.pow 2 32⟩),
  (readPageSize, ⟨"u32", Nat.pow 2 32⟩),
  (interval, ⟨"u64", Nat.pow 2 64⟩),
  (pageTimeout, ⟨"u64", Nat.pow 2 64⟩),
  (batchTimeout, ⟨"u64", Nat.pow 2 64⟩),
  (tenantConcurrency, ⟨"usize", Nat.pow 2 64⟩),
  (requestTimeout, ⟨"u64", Nat.pow 2 64⟩)]

/-- Different settings have different variables. -/
theorem variableName_injective :
    Function.Injective fun s : Sigma Setting => s.2.variableName := by
  rintro ⟨_, s⟩ ⟨_, s'⟩ h
  cases s <;> cases s' <;> first | rfl | (simp [variableName] at h)

end Setting

/-! ## Layers -/

namespace Environment

variable {env : Environment}

/-- The number that a setting's variable is set to. -/
def read (env : Environment) (entry : Setting Nat × NumberRange) : Except ConfigError (Option Nat) :=
  env.number entry.2 entry.1.variableName

/-- The variable of a setting, if it is set, writes a number of the setting's range. -/
def Fits (env : Environment) (entry : Setting Nat × NumberRange) : Prop :=
  ∀ text, env.Sets entry.1.variableName text → ∃ n < entry.2.bound, Text.Writes text n

/-- A number is read when its variable is unset or writes one in range. -/
theorem exists_read_eq_ok_iff {entry : Setting Nat × NumberRange} :
    (∃ a, env.read entry = .ok a) ↔ env.Fits entry := by
  constructor
  · rintro ⟨a, ha⟩ text hset
    by_contra hnone
    have herror := number_eq_error_iff.2 ⟨text, hset, hnone, rfl⟩
    rw [read, herror] at ha
    cases ha
  · intro h
    cases hread : env.read entry with
    | ok a => exact ⟨a, rfl⟩
    | error e =>
      obtain ⟨text, hset, hnone, -⟩ := number_eq_error_iff.1 hread
      exact absurd (h text hset) hnone

/-- The layer that the eight numbers make up with what the other variables say. -/
def assemble (env : Environment) : List (Option Nat) → Layer
  | [writeBatchSize, listPageSize, readPageSize, interval, pageTimeout, batchTimeout,
      tenantConcurrency, requestTimeout] => {
    pass := some {
      writeBatchSize, listPageSize, readPageSize, interval, pageTimeout, batchTimeout,
      tenantConcurrency
      dryRun := env.switch Setting.dryRun.variableName
      tenants := env.list Setting.tenants.variableName }
    store := some {
      requestTimeout
      url := env.value? Setting.url.variableName
      apiToken := env.value? Setting.apiToken.variableName
      modelId := env.value? Setting.modelId.variableName
      storePrefix := env.value? Setting.storePrefix.variableName }
    cluster := some env.clusterSection
    log := some env.logSection }
  | _ => {}

/-- The numbers are all that can fail to be read, and they are read in their order. -/
theorem layer_eq (env : Environment) :
    env.layer = do return env.assemble (← Setting.numbers.mapM env.read) := by
  simp only [layer, passSection, storeSection, Setting.numbers, List.mapM_cons, List.mapM_nil,
    bind_assoc, pure_bind]
  rfl

/-- There is a layer when all the numbers are read. -/
theorem layer_eq_ok_iff {layer : Layer} : env.layer = .ok layer ↔
    ∃ values, Setting.numbers.mapM env.read = .ok values ∧ env.assemble values = layer := by
  rw [layer_eq, bind_eq_ok]
  simp only [pure_eq_ok]

/-- The first number whose variable is set to something else decides the error. -/
theorem layer_eq_error_iff {e : ConfigError} : env.layer = .error e ↔ ∃ before s range after text,
    Setting.numbers = before ++ (s, range) :: after ∧ (∀ entry ∈ before, env.Fits entry) ∧
    env.Sets s.variableName text ∧ (¬ ∃ n < range.bound, Text.Writes text n) ∧
    e = .notANumber s.variableName range text := by
  have hread : env.layer = .error e ↔ Setting.numbers.mapM env.read = .error e := by
    rw [layer_eq, bind_eq_error]
    exact or_iff_left fun ⟨_, _, h⟩ => by cases h
  simp only [hread, mapM_eq_error_iff, exists_read_eq_ok_iff, Prod.exists]
  constructor
  · rintro ⟨before, s, range, after, hnumbers, hbefore, herror⟩
    obtain ⟨text, hset, hnone, rfl⟩ := number_eq_error_iff.1 herror
    exact ⟨before, s, range, after, text, hnumbers, hbefore, hset, hnone, rfl⟩
  · rintro ⟨before, s, range, after, text, hnumbers, hbefore, hset, hnone, rfl⟩
    exact ⟨before, s, range, after, hnumbers, hbefore,
      number_eq_error_iff.2 ⟨text, hset, hnone, rfl⟩⟩

/-- So there is one just when every number fits. -/
theorem exists_layer_eq_ok_iff :
    (∃ layer, env.layer = .ok layer) ↔ ∀ entry ∈ Setting.numbers, env.Fits entry := by
  simp only [layer_eq_ok_iff, ← exists_read_eq_ok_iff, ← exists_mapM_eq_ok_iff]
  exact ⟨fun ⟨_, values, hvalues, _⟩ => ⟨values, hvalues⟩,
    fun ⟨values, hvalues⟩ => ⟨_, values, hvalues, rfl⟩⟩

/-- What a layer says about a setting is what its variable means. -/
theorem said_eq_some_iff {layer : Layer} (h : env.layer = .ok layer) {α : Type} (s : Setting α)
    (v : α) : s.said layer = some v ↔ ∃ text, env.Sets s.variableName text ∧ s.Means text v := by
  obtain ⟨values, hvalues, rfl⟩ := layer_eq_ok_iff.1 h
  rw [mapM_eq_ok_iff, Setting.numbers] at hvalues
  -- Eight values are read, one for each number.
  obtain _ | ⟨hwrite, _ | ⟨hlist, _ | ⟨hread, _ | ⟨hinterval, _ | ⟨hpage, _ | ⟨hbatch,
    _ | ⟨htenants, _ | ⟨hrequest, ⟨⟩⟩⟩⟩⟩⟩⟩⟩⟩ := hvalues
  cases s with
  | writeBatchSize => exact number_eq_ok hwrite v
  | listPageSize => exact number_eq_ok hlist v
  | readPageSize => exact number_eq_ok hread v
  | interval => exact number_eq_ok hinterval v
  | pageTimeout => exact number_eq_ok hpage v
  | batchTimeout => exact number_eq_ok hbatch v
  | tenantConcurrency => exact number_eq_ok htenants v
  | requestTimeout => exact number_eq_ok hrequest v
  | dryRun => exact switch_eq_some_iff
  | json => exact switch_eq_some_iff
  | tenants => exact list_eq_some_iff
  | _ =>
    -- The other settings are texts, and a text means itself.
    exact value?_eq_some_iff.trans ⟨fun hset => ⟨v, hset, rfl⟩, fun ⟨_, hset, heq⟩ => heq ▸ hset⟩

/-- Every section is there, if only an empty one. -/
theorem isSome_of_layer {layer : Layer} (h : env.layer = .ok layer) :
    layer.pass.isSome ∧ layer.store.isSome ∧ layer.cluster.isSome ∧ layer.log.isSome := by
  obtain ⟨pass, -, h⟩ := bind_eq_ok.1 h
  obtain ⟨store, -, h⟩ := bind_eq_ok.1 h
  obtain rfl := pure_eq_ok.1 h
  exact ⟨rfl, rfl, rfl, rfl⟩

/-- Variables that agree on what one of them is set to give layers that agree on its setting. -/
theorem said_congr {env' : Environment} {layer layer' : Layer} (h : env.layer = .ok layer)
    (h' : env'.layer = .ok layer') {α : Type} {s : Setting α}
    (hs : ∀ text, env.Sets s.variableName text ↔ env'.Sets s.variableName text) :
    s.said layer = s.said layer' := by
  refine Option.ext fun v => ?_
  simp only [said_eq_some_iff h, said_eq_some_iff h', hs]

end Environment

/-- There is a layer just when each of the eight numbers has a variable that is unset or writes a number
of its range. If there is none, the error names the first number in their order whose variable does
neither, with what it is set to. In a layer every section is there and every setting has the value that
its own variable means, or none if that is unset, so it depends on no other variable. -/
theorem layer_of_variables (env : Environment) :
    ((∃ layer, env.layer = .ok layer) ↔ ∀ entry ∈ Setting.numbers, env.Fits entry) ∧
    (∀ e, env.layer = .error e ↔ ∃ before s range after text,
      Setting.numbers = before ++ (s, range) :: after ∧ (∀ entry ∈ before, env.Fits entry) ∧
      env.Sets s.variableName text ∧ (¬ ∃ n < range.bound, Text.Writes text n) ∧
      e = .notANumber s.variableName range text) ∧
    (∀ layer, env.layer = .ok layer →
      (layer.pass.isSome ∧ layer.store.isSome ∧ layer.cluster.isSome ∧ layer.log.isSome) ∧
      ∀ {α : Type} (s : Setting α),
        (∀ v, s.said layer = some v ↔ ∃ text, env.Sets s.variableName text ∧ s.Means text v) ∧
        ∀ (env' : Environment) (layer' : Layer), env'.layer = .ok layer' →
          (∀ text, env.Sets s.variableName text ↔ env'.Sets s.variableName text) →
          s.said layer = s.said layer') ∧
    Function.Injective fun s : Sigma Setting => s.2.variableName := by
  refine ⟨Environment.exists_layer_eq_ok_iff, fun _ => Environment.layer_eq_error_iff, fun layer h =>
    ⟨Environment.isSome_of_layer h, fun s => ⟨?_, ?_⟩⟩, Setting.variableName_injective⟩
  · exact Environment.said_eq_some_iff h s
  · exact fun _ _ h' => Environment.said_congr h h'

/-- Variables in the forms that are easily taken for wrong: a page size with a sign and zeros, a switch
in mixed letters, a list with blanks and an empty item, and an address that is empty. -/
def mixedVariables : Environment := .ofList [
  ("RELSYNC_OPENFGA_URL", ""),
  ("RELSYNC_RECONCILER_DRY_RUN", "TrUe"),
  ("RELSYNC_RECONCILER_LIST_PAGE_SIZE", "+007"),
  ("RELSYNC_RECONCILER_TENANTS", " org-1,, org-2 ")]

/-- The layer that they make up. -/
def mixedLayer : Layer where
  pass := some { listPageSize := some 7, dryRun := some true, tenants := some ["org-1", "org-2"] }
  store := some {}
  cluster := some {}
  log := some {}

/-- A number and a list are set, a text is set to nothing, and the rest is unset. -/
theorem layer_of_variables_mixed :
    mixedVariables.layer = .ok mixedLayer ∧
      (∀ entry ∈ Setting.numbers, mixedVariables.Fits entry) ∧
      (∃ text, mixedVariables.Sets "RELSYNC_RECONCILER_LIST_PAGE_SIZE" text ∧ Text.Writes text 7) ∧
      (∃ text, mixedVariables.Sets "RELSYNC_RECONCILER_TENANTS" text ∧
        Environment.Lists text ["org-1", "org-2"]) ∧
      Setting.url.said mixedLayer = none := by
  have hlayer : mixedVariables.layer = .ok mixedLayer := by decide +kernel
  have hempty : Environment.layer ∅ = .ok
      { pass := some {}, store := some {}, cluster := some {}, log := some {} } := by decide +kernel
  have hunset : ∀ text, mixedVariables.Sets Setting.url.variableName text ↔
      Environment.Sets ∅ Setting.url.variableName text := by
    intro text
    rw [← Environment.value?_eq_some_iff, ← Environment.value?_eq_some_iff]
    exact Eq.congr_left (by decide +kernel)
  obtain ⟨hfits, -, hlayers, -⟩ := layer_of_variables mixedVariables
  obtain ⟨-, hsaid⟩ := hlayers mixedLayer hlayer
  exact ⟨hlayer, hfits.1 ⟨mixedLayer, hlayer⟩, ((hsaid .listPageSize).1 7).1 rfl,
    ((hsaid .tenants).1 ["org-1", "org-2"]).1 rfl, (hsaid .url).2 ∅ _ hempty hunset⟩

/-- The page size is read first, so its variable decides the error, though the other one is wrong too. -/
example : Environment.layer (.ofList [
    ("RELSYNC_RECONCILER_INTERVAL_SECS", "5m"),
    ("RELSYNC_RECONCILER_READ_PAGE_SIZE", "4294967296")]) =
      .error (.notANumber "RELSYNC_RECONCILER_READ_PAGE_SIZE" .pageSize "4294967296") := by
  decide +kernel

end PolicySync
