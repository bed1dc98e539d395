import PolicySync.Cluster.Lister
import PolicySync.Proofs.Resource.Reordering
import PolicySync.Proofs.Script

/-!
# Resources from objects

An object is read as a resource after its name, its namespace and its specification were written
down as those of one (`Object.decode_asResource`), so it depends on nothing else that the object
holds, nor on the order of its fields, and a resource comes back from every object that holds its
parts (`Object.resource_of_reordered`).
Whatever fails to be read fails under the name of the object, and with it the page that it is on
(`Lister.ends_list`).
-/

namespace PolicySync

open Fallible
open Json (Value)
open Json.Value (Reordered)

/-! ## Values without repeated fields -/

/-- The fields of an object are its entries. -/
theorem Json.entriesOf_value (fields : List (String × Value)) :
    Json.entriesOf Json.value (.object fields) = .ok fields :=
  mapM_eq_ok_iff.2 (List.forall₂_same.2 fun _ _ => rfl)

namespace Json.Value

/-- What remains has the names that were there. -/
theorem any_of_settledFields? {fields fs : List (String × Value)} (name : String)
    (h : settledFields? fields = some fs) :
    fs.any (·.1 = name) = fields.any (·.1 == name) := by
  induction fields generalizing fs with
  | nil =>
    cases h
    rfl
  | cons field rest ih =>
    obtain ⟨name', v⟩ := field
    obtain ⟨v', -, h⟩ := Option.bind_eq_some_iff.1 h
    obtain ⟨others, hothers, h⟩ := Option.bind_eq_some_iff.1 h
    cases h
    rw [List.any_cons, ← ih hothers]
    split
    -- A field is dropped only for a later one of its name.
    · next hlater =>
      by_cases hname : name' = name
      · subst hname
        rw [hlater, Bool.or_true]
      · rw [beq_false_of_ne hname, Bool.false_or]
    · rfl

/-- The field of a name in what remains is the last one of that name. -/
theorem lookup_of_settledFields? {fields fs : List (String × Value)} (name : String)
    (h : settledFields? fields = some fs) :
    fs.lookup name = ((fields.filter (·.1 == name)).getLast?).bind (·.2.settled?) := by
  induction fields generalizing fs with
  | nil =>
    cases h
    rfl
  | cons field rest ih =>
    obtain ⟨name', v⟩ := field
    obtain ⟨v', hv, h⟩ := Option.bind_eq_some_iff.1 h
    obtain ⟨others, hothers, h⟩ := Option.bind_eq_some_iff.1 h
    cases h
    have hrest := ih hothers
    have hany := any_of_settledFields? name hothers
    by_cases hname : name' = name
    · -- The field counts unless there is a later one of its name.
      subst hname
      have hfilter : ((name', v) :: rest).filter (·.1 == name') =
          (name', v) :: rest.filter (·.1 == name') :=
        List.filter_cons_of_pos (beq_self_eq_true name')
      rw [hfilter]
      split
      · next hlater =>
        rw [hlater] at hany
        have hne : rest.filter (·.1 == name') ≠ [] := by
          obtain ⟨f, hf, hfname⟩ := List.any_eq_true.1 hany.symm
          exact List.ne_nil_of_mem (List.mem_filter.2 ⟨hf, hfname⟩)
        rw [hrest, List.getLast?_cons_of_ne_nil hne]
      · next hlast =>
        rw [Bool.eq_false_iff.2 hlast] at hany
        have hnil : rest.filter (·.1 == name') = [] := by
          refine List.filter_eq_nil_iff.2 fun f hf => ?_
          exact List.any_eq_false.1 hany.symm f hf
        rw [hnil, List.lookup_cons_self]
        exact hv.symm
    · rw [List.filter_cons_of_neg (by simpa using hname)]
      split
      · exact hrest
      · rw [List.lookup_cons, beq_false_of_ne (Ne.symm hname)]
        exact hrest

end Json.Value

namespace ResourceSpec

/-- No specification is written as null. -/
theorem encode_ne_null (s : ResourceSpec) : s.encode ≠ .null := by
  cases s <;> nofun

end ResourceSpec

namespace Cluster

namespace Object

variable {kind : ResourceKind} {o : Object}

/-- What was written down is read as it is: the names are there, and the rest is the
specification. -/
theorem decode_asResource (kind : ResourceKind) (o : Object) :
    Resource.decode kind o.asResource = (ResourceSpec.decode kind o.spec).map fun spec =>
      { metadata := { name := o.name.getD "", tenant := o.space }, spec } := by
  have hmetadata : Metadata.decode (.object [("name", .str (o.name.getD "")),
      ("namespace", (o.space.map .str).getD .null)]) =
        .ok { name := o.name.getD "", tenant := o.space } := by
    cases o.space <;> rfl
  -- The fields of the object stand for the metadata, so only the specification can fail.
  cases hspec : ResourceSpec.decode kind o.spec with
  | ok spec =>
    refine bind_eq_ok.2 ⟨_, rfl, bind_eq_ok.2 ⟨_, hmetadata, ?_⟩⟩
    dsimp only
    split
    · exact bind_eq_ok.2 ⟨spec, hspec, rfl⟩
    · exact bind_eq_ok.2 ⟨spec, hspec, rfl⟩
  | error e =>
    refine bind_eq_error.2 (.inr ⟨_, rfl, bind_eq_error.2 (.inr ⟨_, hmetadata, ?_⟩)⟩)
    dsimp only
    split
    · exact bind_eq_error.2 (.inl hspec)
    · exact bind_eq_error.2 (.inl hspec)

/-- An object is a resource when its specification is read. -/
theorem resource_eq_ok {spec : ResourceSpec} (h : ResourceSpec.decode kind o.spec = .ok spec) :
    o.resource kind =
      .ok { metadata := { name := o.name.getD "", tenant := o.space }, spec } := by
  rw [resource, decode_asResource, h]
  rfl

/-- An object that is no resource of a kind fails under the kind and its own name. -/
theorem resource_eq_error {e : ListError} (h : o.resource kind = .error e) :
    ∃ detail, e = .decode kind (o.name.getD "") detail := by
  obtain ⟨cause, -, rfl⟩ := mapError_eq_error.1 h
  exact ⟨_, rfl⟩

/-- Objects with the same names and the same specification are the same resource. -/
theorem resource_congr {o' : Object} (hname : o.name = o'.name) (hspace : o.space = o'.space)
    (hspec : o.spec = o'.spec) : o.resource kind = o'.resource kind := by
  rw [resource, resource, asResource, asResource, hname, hspace, hspec]

/-- An object holds no specification, or one without any field. -/
def Unspecified (o : Object) : Prop :=
  o.data.field? "spec" = none ∨ o.data.field? "spec" = some .null ∨
    o.data.field? "spec" = some (.object [])

/-- What says nothing is read as a specification without fields. -/
theorem Unspecified.spec (h : o.Unspecified) : o.spec = .object [] := by
  rcases h with h | h | h
  all_goals rw [Object.spec, h]

/-- What stands for a specification is not null. -/
theorem spec_of_field? {v : Value} (h : o.data.field? "spec" = some v) (hv : v ≠ .null) :
    o.spec = v := by
  rw [spec, h]
  split
  · next hnull => exact absurd (Option.some.inj hnull) hv
  · next hsome => exact (Option.some.inj hsome).symm
  · next hnone => cases hnone

/-- A resource is read from an object that has its names and holds what its specification is written
as, in any order of fields. -/
theorem resource_of_reordered {r : Resource} {v : Value} (hname : o.name = some r.name)
    (hspace : o.space = r.metadata.tenant) (hspec : o.data.field? "spec" = some v)
    (hv : Reordered v r.spec.encode) : o.resource r.kind = .ok r := by
  have hnull : v ≠ .null := by
    rintro rfl
    exact r.spec.encode_ne_null hv.eq_null
  have hread : ResourceSpec.decode r.kind o.spec = .ok r.spec := by
    rw [spec_of_field? hspec hnull]
    exact ResourceSpec.decode_of_reordered hv
  rw [resource_eq_ok hread, hname, hspace]
  rfl

/-- What an object holds under a name other than that of its metadata is the last field of that
name. -/
theorem field?_of_decode {fields : List (String × Value)} (h : decode (.object fields) = .ok o)
    {name : String} (hname : name ≠ "metadata") :
    o.data.field? name = ((fields.filter (·.1 == name)).getLast?).bind (·.2.settled?) := by
  obtain ⟨fields', hfields, h⟩ := bind_eq_ok.1 h
  rw [Json.entriesOf_value] at hfields
  cases hfields
  obtain ⟨metadata?, -, h⟩ := bind_eq_ok.1 h
  have hfilter : (fields.filter (·.1 != "metadata")).filter (·.1 == name) =
      fields.filter (·.1 == name) := by
    rw [List.filter_filter]
    refine List.filter_congr fun f _ => ?_
    by_cases hf : f.1 = name
    · simp [hf, hname]
    · simp [hf]
  have hsettled : ∀ {data : Value},
      Json.settled (.object (fields.filter (·.1 != "metadata"))) = .ok data →
        data.field? name = ((fields.filter (·.1 == name)).getLast?).bind (·.2.settled?) := by
    intro data hdata
    rw [Json.settled] at hdata
    split at hdata
    · next v hv =>
      cases hdata
      obtain ⟨fs, hfs, hv⟩ := Option.bind_eq_some_iff.1 hv
      cases hv
      rw [Value.field?, Value.lookup_of_settledFields? name hfs, hfilter]
    · cases hdata
  -- The names come before the rest, with or without metadata.
  rcases metadata? with _ | metadata
  all_goals
    obtain ⟨names, -, h⟩ := bind_eq_ok.1 h
    obtain ⟨data, hdata, h⟩ := bind_eq_ok.1 h
    cases h
    exact hsettled hdata

end Object

namespace Lister

open Script (Ends)

variable {W : Type u} {answer : (request : Http.Request) → W → Http.Outcome × W} {w : W}
  {l : Lister} {kind : ResourceKind} {space token : Option String} {limit : Nat}
  {request : Http.Request} {page : Page Object}

/-- A page of objects is a page of resources, all of them in order, unless an object fails, and then
the listing fails as the first of those. -/
theorem ends_list (hrequest : pageRequest?
      (l.path kind (if kind.clusterScoped then none else space)) none limit (nextToken token) =
        some request)
    (hpage : received (decodePage Object.decode) (answer request w).1 = .ok page) :
    ∃ result, Ends answer (l.list kind space limit token) w result (answer request w).2 ∧
      ((∃ items, result = .ok { items, next := page.next } ∧
        page.items.Forall₂ (fun o r => o.resource kind = .ok r) items) ∨
      ∃ before o after e, page.items = before ++ o :: after ∧
        (∀ b ∈ before, ∃ r, b.resource kind = .ok r) ∧ o.resource kind = .error e ∧
        result = .error e) := by
  -- After the reply there are no more questions.
  have hends : ∀ {result}, (page.items.mapM (Object.resource kind) >>= fun items =>
      .ok { items, next := page.next }) = result →
      Ends answer (l.list kind space limit token) w result (answer request w).2 := by
    intro result hresult
    rw [list]
    simp only [hrequest]
    rw [Script.ends_ask, Script.ends_done, hpage]
    exact ⟨hresult.symm, rfl⟩
  cases hread : page.items.mapM (Object.resource kind) with
  | ok items =>
    rw [hread] at hends
    exact ⟨_, hends rfl, .inl ⟨items, rfl, mapM_eq_ok_iff.1 hread⟩⟩
  | error e =>
    obtain ⟨before, o, after, hsplit, hbefore, ho⟩ := mapM_eq_error_iff.1 hread
    rw [hread] at hends
    exact ⟨_, hends rfl, .inr ⟨before, o, after, e, hsplit, hbefore, ho, rfl⟩⟩

end Lister

/-- A resource of any kind is read from every object that has its name and its namespace and holds
what its specification is written as, in any order of fields at any level, whatever else that object
holds and in whatever place; if the object came as JSON, the last specification in it counts, and of
the fields of one name inside it the last. To hold none, null or one without fields is the same for
every kind. An object that is no resource of a kind fails under the kind and its own name, and a page
of objects is listed as all their resources in order, or fails as the first object that does. -/
theorem resources_of_objects :
    (∀ (r : Resource) {o : Object} {v : Value}, o.name = some r.name →
      o.space = r.metadata.tenant → o.data.field? "spec" = some v →
      Reordered v r.spec.encode → o.resource r.kind = .ok r) ∧
    (∀ (r : Resource) {o : Object} {fields : List (String × Value)} {written v : Value},
      Object.decode (.object fields) = .ok o → o.name = some r.name →
      o.space = r.metadata.tenant →
      (fields.filter (·.1 == "spec")).getLast? = some ("spec", written) →
      written.settled? = some v → Reordered v r.spec.encode → o.resource r.kind = .ok r) ∧
    (∀ (kind : ResourceKind) {o o' : Object}, o.name = o'.name → o.space = o'.space →
      o.Unspecified → o'.Unspecified → o.resource kind = o'.resource kind) ∧
    (∀ {kind : ResourceKind} {o : Object} {e : ListError}, o.resource kind = .error e →
      ∃ detail, e = .decode kind (o.name.getD "") detail) ∧
    ∀ {W : Type} {answer : (request : Http.Request) → W → Http.Outcome × W} {w : W}
      {l : Lister} {kind : ResourceKind} {space token : Option String} {limit : Nat}
      {request : Http.Request} {page : Page Object},
      pageRequest? (l.path kind (if kind.clusterScoped then none else space)) none limit
        (nextToken token) = some request →
      received (decodePage Object.decode) (answer request w).1 = .ok page →
      ∃ result, Script.Ends answer (l.list kind space limit token) w result (answer request w).2 ∧
        ((∃ items, result = .ok { items, next := page.next } ∧
          page.items.Forall₂ (fun o r => o.resource kind = .ok r) items) ∨
        ∃ before o after e, page.items = before ++ o :: after ∧
          (∀ b ∈ before, ∃ r, b.resource kind = .ok r) ∧ o.resource kind = .error e ∧
          result = .error e) := by
  refine ⟨fun r o v hname hspace hspec hv => Object.resource_of_reordered hname hspace hspec hv,
    ?_, ?_, Object.resource_eq_error, Lister.ends_list⟩
  · intro r o fields written v hdecode hname hspace hlast hsettled hv
    refine Object.resource_of_reordered hname hspace ?_ hv
    rw [Object.field?_of_decode hdecode (by decide), hlast]
    exact hsettled
  · intro kind o o' hname hspace ho ho'
    exact Object.resource_congr hname hspace (ho.spec.trans ho'.spec.symm)

/-- What a binding of a role to a user says, the fields sorted by name. -/
def sortedBinding : Value :=
  .object [("roleRefs", .list [.object [("name", .str "editor")]]),
    ("subject", .object [("name", .str "ann"), ("kind", .str "User")])]

/-- The binding as a cluster may keep it, with a specification that does not count. -/
def keptBinding : List (String × Value) :=
  [("apiVersion", .str "v1"), ("spec", .null),
    ("metadata", .object [("labels", .object [("team", .str "docs")]), ("name", .str "inner"),
      ("namespace", .str "north")]),
    ("spec", .object [("roleRefs", .null), ("roleRefs", .list [.object [("name", .str "editor")]]),
      ("subject", .object [("name", .str "ann"), ("kind", .str "User")])]),
    ("status", .list [.bool true])]

/-- What is read of it. -/
def keptObject : Object where
  name := some "inner"
  space := some "north"
  data := .object [("apiVersion", .str "v1"), ("spec", sortedBinding),
    ("status", .list [.bool true])]

/-- The binding as a resource. -/
def editorBinding : Resource where
  metadata := { name := "inner", tenant := some "north" }
  spec := .roleBinding ⟨"User", "ann"⟩ ["editor"]

/-- What the binding says is written in another order. -/
theorem reordered_sortedBinding : Reordered sortedBinding editorBinding.spec.encode := by
  have hsubject : Reordered (.object [("name", .str "ann"), ("kind", .str "User")])
      (SubjectRef.encode ⟨"User", "ann"⟩) :=
    .object rfl (List.forall₂_same.2 fun v _ => .refl v) (.swap _ _ _)
  let inside : List (String × Value) := [("roleRefs", .list [encodeRoleRef "editor"]),
    ("subject", SubjectRef.encode ⟨"User", "ann"⟩)]
  have hvalues : [.list [encodeRoleRef "editor"],
      .object [("name", .str "ann"), ("kind", .str "User")]].Forall₂ Reordered
      (inside.map Prod.snd) := .cons (.refl _) (.cons hsubject .nil)
  exact .object (show _ = inside.map Prod.fst from rfl) hvalues (.swap _ _ _)

/-- A server with a page of two users, the role of the second of which is not a text. -/
def twoUsers (_ : Http.Request) (n : Nat) : Http.Outcome × Nat :=
  let user (name : String) (role : Value) : Value :=
    .object [("metadata", .object [("name", .str name)]), ("spec", .object [("role", role)])]
  (.reply { status := 200, json := some (.object
    [("items", .list [user "ann" (.str "viewer"), user "bob" (.int 3)])]) }, n + 1)

/-- A binding whose fields are sorted by name is read from an object with labels, a state and an
earlier specification, and so is one that is kept in another way; a user without a specification is
one with null; a binding of a team without one fails under its name; and a page fails as the second
user on it. -/
theorem resources_of_objects_kept :
    Object.resource .roleBinding { keptObject with data := .object [("spec", sortedBinding)] } =
      .ok editorBinding ∧
    Object.decode (.object keptBinding) = .ok keptObject ∧
    keptObject.resource .roleBinding = .ok editorBinding ∧
    Object.resource .user { name := some "ann", data := .object [("spec", .null)] } =
      Object.resource .user { name := some "ann" } ∧
    (∃ detail, Object.resource .teamBinding { name := some "silent" } =
      .error (.decode .teamBinding "silent" detail)) ∧
    ∃ e, Script.Ends twoUsers (Lister.list ⟨"iam", "v1", none⟩ .user (some "north") 10 none)
      0 (.error e) 1 := by
  obtain ⟨hread, hdecoded, hunspecified, herror, hlist⟩ := resources_of_objects
  have hkept : Object.decode (.object keptBinding) = .ok keptObject := rfl
  refine ⟨hread editorBinding rfl rfl rfl reordered_sortedBinding, hkept,
    hdecoded editorBinding hkept rfl rfl rfl rfl reordered_sortedBinding,
    hunspecified .user rfl rfl (.inr (.inl rfl)) (.inl rfl), ?_, ?_⟩
  · cases hread : Object.resource .teamBinding { name := some "silent" } with
    | ok r => cases hread
    | error e =>
      obtain ⟨detail, rfl⟩ := herror hread
      exact ⟨detail, rfl⟩
  · obtain ⟨request, hrequest⟩ : ∃ request, pageRequest? (Lister.path ⟨"iam", "v1", none⟩ .user
        (if ResourceKind.user.clusterScoped then none else some "north")) none 10
          (nextToken none) = some request :=
      Option.isSome_iff_exists.1 (by decide +kernel)
    obtain ⟨result, hends, ⟨items, -, hall⟩ | ⟨-, -, -, e, -, -, -, rfl⟩⟩ :=
      @hlist Nat twoUsers 0 _ _ _ _ _ _ _ hrequest rfl
    · cases hall with
      | cons _ hrest =>
        cases hrest with
        | cons hbob _ => cases hbob
    · exact ⟨e, hends⟩

end Cluster

end PolicySync
