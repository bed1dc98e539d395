import PolicySync.Config.Basic
import PolicySync.Proofs.Fallible

/-!
# The settings one by one

A configuration is its nineteen settings (`Config.eq_of_held`). Putting layers on top of each other is
associative, a layer that says nothing changes nothing (`Layer.stacks`), and of all the layers in a
stack the last one that says something about a setting decides it, whatever they say about others
(`Setting.held_settle_foldl`).
-/

namespace PolicySync

open Fallible

/-! ## Putting layers on top of each other -/

/-- Putting on top is associative, and what says nothing changes nothing. -/
structure Stacks (empty : σ) (overlay : σ → σ → σ) : Prop where
  assoc : ∀ a b c, overlay (overlay a b) c = overlay a (overlay b c)
  empty_below : ∀ a, overlay empty a = a
  empty_above : ∀ a, overlay a empty = a

/-- Sections about passes stack. -/
theorem PassSection.stacks : Stacks {} PassSection.overlay where
  assoc a b c := by simp [overlay, Option.or_assoc]
  empty_below a := by simp [overlay]
  empty_above a := by simp [overlay]

/-- Sections about the store stack. -/
theorem StoreSection.stacks : Stacks {} StoreSection.overlay where
  assoc a b c := by simp [overlay, Option.or_assoc]
  empty_below a := by simp [overlay]
  empty_above a := by simp [overlay]

/-- Sections about the cluster stack. -/
theorem ClusterSection.stacks : Stacks {} ClusterSection.overlay where
  assoc a b c := by simp [overlay, Option.or_assoc]
  empty_below a := by simp [overlay]
  empty_above a := by simp [overlay]

/-- Sections about logging stack. -/
theorem LogSection.stacks : Stacks {} LogSection.overlay where
  assoc a b c := by simp [overlay, Option.or_assoc]
  empty_below a := by simp [overlay]
  empty_above a := by simp [overlay]

namespace Stacks

variable {σ : Type} {empty : σ} {overlay : σ → σ → σ}

/-- A missing section is like one that says nothing. -/
theorem getD_overlaySection (h : Stacks empty overlay) (lower upper : Option σ) :
    (overlaySection empty overlay lower upper).getD empty =
      overlay (lower.getD empty) (upper.getD empty) := by
  cases upper with
  | none => exact (h.empty_above _).symm
  | some u => rfl

/-- Sections that may be missing stack when sections do. -/
theorem overlaySection (h : Stacks empty overlay) : Stacks none (overlaySection empty overlay) where
  assoc a b c := by
    cases c with
    | none => rfl
    | some c =>
      show some (overlay ((PolicySync.overlaySection empty overlay a b).getD empty) c) =
        some (overlay (a.getD empty) (overlay (b.getD empty) c))
      rw [h.getD_overlaySection, h.assoc]
  empty_below a := by
    cases a with
    | none => rfl
    | some a => exact congrArg some (h.empty_below a)
  empty_above a := rfl

end Stacks

/-- So layers stack, section by section. -/
theorem Layer.stacks : Stacks {} Layer.overlay where
  assoc a b c := by
    simp only [overlay, PassSection.stacks.overlaySection.assoc,
      StoreSection.stacks.overlaySection.assoc, ClusterSection.stacks.overlaySection.assoc,
      LogSection.stacks.overlaySection.assoc]
  empty_below a := by
    simp only [overlay, PassSection.stacks.overlaySection.empty_below,
      StoreSection.stacks.overlaySection.empty_below,
      ClusterSection.stacks.overlaySection.empty_below, LogSection.stacks.overlaySection.empty_below]
  empty_above a := rfl

/-! ## Settings -/

/-- A setting whose values are of a type. -/
inductive Setting : Type → Type where
  | writeBatchSize : Setting Nat
  | listPageSize : Setting Nat
  | readPageSize : Setting Nat
  | interval : Setting Nat
  | pageTimeout : Setting Nat
  | batchTimeout : Setting Nat
  | tenantConcurrency : Setting Nat
  | dryRun : Setting Bool
  | tenants : Setting (List String)
  | url : Setting String
  | apiToken : Setting String
  | modelId : Setting String
  | storePrefix : Setting String
  | requestTimeout : Setting Nat
  | group : Setting String
  | version : Setting String
  | tenantSelector : Setting String
  | level : Setting String
  | json : Setting Bool

namespace Setting

variable {α : Type}

/-- What a layer says about a setting. A missing section says nothing. -/
def said : {α : Type} → Setting α → Layer → Option α
  | _, writeBatchSize, l => (l.pass.getD {}).writeBatchSize
  | _, listPageSize, l => (l.pass.getD {}).listPageSize
  | _, readPageSize, l => (l.pass.getD {}).readPageSize
  | _, interval, l => (l.pass.getD {}).interval
  | _, pageTimeout, l => (l.pass.getD {}).pageTimeout
  | _, batchTimeout, l => (l.pass.getD {}).batchTimeout
  | _, tenantConcurrency, l => (l.pass.getD {}).tenantConcurrency
  | _, dryRun, l => (l.pass.getD {}).dryRun
  | _, tenants, l => (l.pass.getD {}).tenants
  | _, url, l => (l.store.getD {}).url
  | _, apiToken, l => (l.store.getD {}).apiToken
  | _, modelId, l => (l.store.getD {}).modelId
  | _, storePrefix, l => (l.store.getD {}).storePrefix
  | _, requestTimeout, l => (l.store.getD {}).requestTimeout
  | _, group, l => (l.cluster.getD {}).group
  | _, version, l => (l.cluster.getD {}).version
  | _, tenantSelector, l => (l.cluster.getD {}).tenantSelector
  | _, level, l => (l.log.getD {}).level
  | _, json, l => (l.log.getD {}).json

/-- The value that a setting has in a configuration. Only the token, the authorization model and the
selector may have none. -/
def held : {α : Type} → Setting α → Config → Option α
  | _, writeBatchSize, c => some c.pass.writeBatchSize
  | _, listPageSize, c => some c.pass.listPageSize
  | _, readPageSize, c => some c.pass.readPageSize
  | _, interval, c => some c.pass.interval
  | _, pageTimeout, c => some c.pass.pageTimeout
  | _, batchTimeout, c => some c.pass.batchTimeout
  | _, tenantConcurrency, c => some c.pass.tenantConcurrency
  | _, dryRun, c => some c.pass.dryRun
  | _, tenants, c => some c.pass.tenants
  | _, url, c => some c.store.url
  | _, apiToken, c => c.store.apiToken
  | _, modelId, c => c.store.modelId
  | _, storePrefix, c => some c.store.storePrefix
  | _, requestTimeout, c => some c.store.requestTimeout
  | _, group, c => some c.cluster.group
  | _, version, c => some c.cluster.version
  | _, tenantSelector, c => c.cluster.tenantSelector
  | _, level, c => some c.log.level
  | _, json, c => some c.log.json

/-- The value that a setting has when nothing is said about it. -/
def default (s : Setting α) : Option α := s.held {}

/-- The value of a setting under layers, those that come later on top: what the last one says that says
something, or else the default. -/
def effective (s : Setting α) (layers : List Layer) : Option α :=
  (layers.filterMap s.said).getLast?.or s.default

/-- The empty layer says nothing. -/
theorem said_empty (s : Setting α) : s.said {} = none := by
  cases s <;> rfl

/-- What the upper layer says about a setting counts, and what the lower one says if that is silent. -/
theorem said_overlay (s : Setting α) (lower upper : Layer) :
    s.said (lower.overlay upper) = (s.said upper).or (s.said lower) := by
  cases s <;> simp only [said, Layer.overlay, PassSection.stacks.getD_overlaySection,
    StoreSection.stacks.getD_overlaySection, ClusterSection.stacks.getD_overlaySection,
    LogSection.stacks.getD_overlaySection] <;> rfl

/-- What several layers say is what the last of them says that says anything. -/
theorem said_foldl_overlay (s : Setting α) (layers : List Layer) (base : Layer) :
    s.said (layers.foldl Layer.overlay base) =
      (layers.filterMap s.said).getLast?.or (s.said base) := by
  induction layers generalizing base with
  | nil => rfl
  | cons layer layers ih =>
    rw [List.foldl_cons, ih, said_overlay]
    cases hsaid : s.said layer with
    | none => rw [List.filterMap_cons_none hsaid, Option.none_or]
    | some a => simp [List.filterMap_cons_some hsaid, List.getLast?_cons]

/-- A configuration holds what its layer says, or else the default. -/
theorem held_settle (s : Setting α) (layer : Layer) :
    s.held layer.settle = (s.said layer).or s.default := by
  cases s <;> simp [held, said, default, Layer.settle, PassSection.settle, StoreSection.settle,
    ClusterSection.settle, LogSection.settle]

/-- The last layer that says something about a setting decides it. -/
theorem held_settle_foldl (s : Setting α) (layers : List Layer) :
    s.held (layers.foldl Layer.overlay {}).settle = s.effective layers := by
  rw [held_settle, said_foldl_overlay, said_empty, Option.or_none]
  rfl

/-- A section that is there but empty hides nothing. -/
example : url.effective [{ store := some { url := some "http://fga" } }, { store := some {} }] =
    some "http://fga" := rfl

end Setting

attribute [ext] PassConfig StoreConfig ClusterConfig LogConfig Config

/-- There is nothing to a configuration but its settings. -/
theorem Config.eq_of_held {c c' : Config} (h : ∀ {α : Type} (s : Setting α), s.held c = s.held c') :
    c = c' := by
  have hpass : c.pass = c'.pass := by
    rw [PassConfig.ext_iff]
    exact ⟨Option.some.inj (h .writeBatchSize), Option.some.inj (h .listPageSize),
      Option.some.inj (h .readPageSize), Option.some.inj (h .interval),
      Option.some.inj (h .pageTimeout), Option.some.inj (h .batchTimeout),
      Option.some.inj (h .tenantConcurrency), Option.some.inj (h .dryRun),
      Option.some.inj (h .tenants)⟩
  have hstore : c.store = c'.store := by
    rw [StoreConfig.ext_iff]
    exact ⟨Option.some.inj (h .url), h .apiToken, h .modelId, Option.some.inj (h .storePrefix),
      Option.some.inj (h .requestTimeout)⟩
  have hcluster : c.cluster = c'.cluster := by
    rw [ClusterConfig.ext_iff]
    exact ⟨Option.some.inj (h .group), Option.some.inj (h .version), h .tenantSelector⟩
  have hlog : c.log = c'.log := by
    rw [LogConfig.ext_iff]
    exact ⟨Option.some.inj (h .level), Option.some.inj (h .json)⟩
  exact Config.ext hpass hstore hcluster hlog

end PolicySync
