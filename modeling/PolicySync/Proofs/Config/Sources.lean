import PolicySync.Proofs.Config.Ranking
import PolicySync.Proofs.Config.Setting

/-!
# The configuration that sources make up

Sources are loaded in the order of their precedence, and the first one that cannot be loaded decides the
error. If all can be loaded, every setting is as the last source says that says something about it, and
the configuration is accepted when six numbers are not zero and the address is one of the web
(`config_ofSources`).
-/

namespace PolicySync

open Fallible

/-! ## What is accepted -/

/-- The check of a number that must not be zero. -/
theorem positive_eq_ok_iff {setting : String} {n : Nat} : positive setting n = .ok () ↔ n ≠ 0 := by
  unfold positive
  split
  · next h => simp [h]
  · next h => simp [h]

/-- The five numbers about passes are checked. -/
theorem PassConfig.check_eq_ok_iff {c : PassConfig} : c.check = .ok () ↔
    c.writeBatchSize ≠ 0 ∧ c.listPageSize ≠ 0 ∧ c.readPageSize ≠ 0 ∧ c.tenantConcurrency ≠ 0 ∧
      c.interval ≠ 0 := by
  simp [check, bind_unit_eq_ok, positive_eq_ok_iff]

/-- The address of the store and its time limit are checked. -/
theorem StoreConfig.check_eq_ok_iff {c : StoreConfig} :
    c.check = .ok () ↔ isWebAddress c.url = true ∧ c.requestTimeout ≠ 0 := by
  unfold check
  cases isWebAddress c.url <;> simp [bind_eq_ok, positive_eq_ok_iff]

/-- A text starts with another one when it is that and a rest. -/
theorem isPrefixOf_toList_iff {start url : String} :
    start.toList.isPrefixOf url.toList = true ↔ ∃ rest, url = start ++ rest := by
  rw [List.isPrefixOf_iff_prefix]
  constructor
  · rintro ⟨rest, hrest⟩
    refine ⟨String.ofList rest, ?_⟩
    rw [← String.toList_inj, String.toList_append, String.toList_ofList, hrest]
  · rintro ⟨rest, rfl⟩
    exact ⟨rest.toList, String.toList_append.symm⟩

/-- Only the two schemes are taken for web addresses. -/
theorem isWebAddress_iff {url : String} :
    isWebAddress url = true ↔ ∃ rest, url = "http://" ++ rest ∨ url = "https://" ++ rest := by
  rw [isWebAddress, Bool.or_eq_true, isPrefixOf_toList_iff, isPrefixOf_toList_iff, exists_or]

namespace Setting

/-- The settings that must not be zero. -/
def positives : List (Setting Nat) :=
  [writeBatchSize, listPageSize, readPageSize, tenantConcurrency, interval, requestTimeout]

end Setting

/-- The values of settings can be worked with: none of six numbers is zero, and the tuple store has a web
address. -/
structure Config.Sound (value? : {α : Type} → Setting α → Option α) : Prop where
  positive : ∀ s ∈ Setting.positives, value? s ≠ some 0
  address : ∃ rest, value? .url = some ("http://" ++ rest) ∨ value? .url = some ("https://" ++ rest)

/-- A configuration that passes its check is sound, and the other way round. -/
theorem Config.check_eq_ok_iff {c : Config} : c.check = .ok () ↔ Config.Sound fun s => s.held c := by
  have hcheck : c.check = .ok () ↔ c.pass.check = .ok () ∧ c.store.check = .ok () := by
    rw [check, bind_unit_eq_ok]
  have hpositive : (∀ s ∈ Setting.positives, s.held c ≠ some 0) ↔
      c.pass.writeBatchSize ≠ 0 ∧ c.pass.listPageSize ≠ 0 ∧ c.pass.readPageSize ≠ 0 ∧
        c.pass.tenantConcurrency ≠ 0 ∧ c.pass.interval ≠ 0 ∧ c.store.requestTimeout ≠ 0 := by
    simp [Setting.positives, Setting.held]
  have haddress : isWebAddress c.store.url = true ↔ ∃ rest,
      Setting.url.held c = some ("http://" ++ rest) ∨
        Setting.url.held c = some ("https://" ++ rest) := by
    simp [isWebAddress_iff, Setting.held]
  rw [hcheck, PassConfig.check_eq_ok_iff, StoreConfig.check_eq_ok_iff, haddress]
  constructor
  · rintro ⟨⟨hwrite, hlist, hread, hconcurrency, hinterval⟩, hurl, htimeout⟩
    exact ⟨hpositive.2 ⟨hwrite, hlist, hread, hconcurrency, hinterval, htimeout⟩, hurl⟩
  · rintro ⟨hnumbers, hurl⟩
    obtain ⟨hwrite, hlist, hread, hconcurrency, hinterval, htimeout⟩ := hpositive.1 hnumbers
    exact ⟨⟨hwrite, hlist, hread, hconcurrency, hinterval⟩, hurl, htimeout⟩

/-! ## Loading -/

section Loading

variable {σ : Type} {precedence : σ → Nat} {load : σ → Except ConfigError Layer}
  {sources others : List σ}

/-- Sources of which one cannot be loaded make up no configuration. -/
theorem Config.ofSources_eq_error {before after : List σ} {x : σ} {e : ConfigError}
    (hranked : byPrecedence precedence sources = before ++ x :: after)
    (hbefore : ∀ y ∈ before, ∃ layer, load y = .ok layer) (hx : load x = .error e) :
    Config.ofSources precedence load sources = .error e := by
  rw [ofSources, hranked, mapM_eq_error hbefore hx]
  rfl

/-- There is a configuration when its layers are loaded and settle to one that passes. -/
theorem Config.ofSources_eq_ok_iff {layers : List Layer} {c : Config}
    (hlayers : (byPrecedence precedence sources).mapM load = .ok layers) :
    Config.ofSources precedence load sources = .ok c ↔
      (layers.foldl Layer.overlay {}).settle = c ∧ c.check = .ok () := by
  rw [ofSources, hlayers]
  constructor
  · intro h
    obtain ⟨loaded, hloaded, h⟩ := bind_eq_ok.1 h
    cases hloaded
    obtain ⟨hcheck, h⟩ := bind_unit_eq_ok.1 h
    obtain rfl := pure_eq_ok.1 h
    exact ⟨rfl, hcheck⟩
  · rintro ⟨rfl, hcheck⟩
    exact bind_eq_ok.2 ⟨layers, rfl, bind_unit_eq_ok.2 ⟨hcheck, rfl⟩⟩

/-- Only sources of one precedence have to keep their order. -/
theorem Config.ofSources_congr (h : SameByPrecedence precedence others sources) :
    Config.ofSources precedence load others = Config.ofSources precedence load sources := by
  rw [ofSources, byPrecedence_congr h]
  rfl

end Loading

/-- Whatever sources there are, in whatever order and with whatever precedences: there is one order by
precedence that leaves equal ones as they are. If some source cannot be loaded, the error is that of the
first such source in this order. Otherwise every setting has the value that the last source in this
order gives that says something about it, and its default, if it has one, when no source does; and there
is a configuration just when these values can be worked with. Sources of different precedence may
change places, since layers are put on top of each other associatively and an empty one changes
nothing. -/
theorem config_ofSources {σ : Type} (precedence : σ → Nat) (load : σ → Except ConfigError Layer)
    (sources : List σ) :
    (∃ ranked, (∀ other, StablyRanked precedence sources other ↔ other = ranked) ∧
      ((∃ x ∈ sources, ∃ e, load x = .error e) → ∃ before x after e,
        ranked = before ++ x :: after ∧ (∀ y ∈ before, ∃ layer, load y = .ok layer) ∧
        load x = .error e ∧ Config.ofSources precedence load sources = .error e) ∧
      ((∀ x ∈ sources, ∃ layer, load x = .ok layer) → ∃ layers,
        List.Forall₂ (fun x layer => load x = .ok layer) ranked layers ∧
        (∀ c, Config.ofSources precedence load sources = .ok c →
          ∀ {α : Type} (s : Setting α), s.held c = s.effective layers) ∧
        ((∃ c, Config.ofSources precedence load sources = .ok c) ↔
          Config.Sound fun s => s.effective layers))) ∧
    (∀ others, SameByPrecedence precedence others sources →
      Config.ofSources precedence load others = Config.ofSources precedence load sources) ∧
    (∀ before a b after, precedence a ≠ precedence b →
      Config.ofSources precedence load (before ++ a :: b :: after) =
        Config.ofSources precedence load (before ++ b :: a :: after)) ∧
    Stacks {} Layer.overlay ∧
    ∀ c c' : Config, (∀ {α : Type} (s : Setting α), s.held c = s.held c') → c = c' := by
  have hmem : ∀ {x}, x ∈ byPrecedence precedence sources ↔ x ∈ sources :=
    (perm_byPrecedence precedence sources).mem_iff
  refine ⟨⟨byPrecedence precedence sources, fun _ => stablyRanked_iff, ?_, ?_⟩,
    fun _ => Config.ofSources_congr,
    fun before _ _ after h => Config.ofSources_congr (sameByPrecedence_swap h before after),
    Layer.stacks, fun _ _ => Config.eq_of_held⟩
  · rintro ⟨x, hx, e, he⟩
    have hnot : ¬ ∀ x ∈ byPrecedence precedence sources, ∃ layer, load x = .ok layer := by
      intro hall
      obtain ⟨layer, hlayer⟩ := hall x (hmem.2 hx)
      rw [he] at hlayer
      cases hlayer
    obtain ⟨before, y, after, e', hranked, hbefore, hy⟩ := exists_first_error hnot
    exact ⟨before, y, after, e', hranked, hbefore, hy,
      Config.ofSources_eq_error hranked hbefore hy⟩
  · intro hall
    obtain ⟨layers, hlayers⟩ := exists_mapM_eq_ok_iff.2 fun x hx => hall x (hmem.1 hx)
    -- Laying layers over each other and settling them is what the effective values are.
    have heffective : ∀ {α : Type} (s : Setting α),
        s.held (layers.foldl Layer.overlay {}).settle = s.effective layers :=
      fun s => s.held_settle_foldl layers
    refine ⟨layers, mapM_eq_ok_iff.1 hlayers, ?_, ?_⟩
    · intro c hc α s
      obtain ⟨rfl, -⟩ := (Config.ofSources_eq_ok_iff hlayers).1 hc
      exact heffective s
    · simp only [Config.ofSources_eq_ok_iff hlayers, exists_eq_left', Config.check_eq_ok_iff,
        heffective]

end PolicySync
