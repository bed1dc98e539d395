import PolicySync.Proofs.Resource.Tuples

/-!
# The tuples of policy fit the authorization model

The model accepts every tuple that a resource stands for but for a mark `#` in the wrong place, and no
mark is in one unless the resource or a role that it takes over has it (`Resource.tuples_fit`).
-/

namespace PolicySync

open Schema

namespace Resource

/-- Every tuple of a resource relates types as the model allows, so the model accepts it just when
its object and its user, if that is named itself, hold no mark. When no text that the names are made
of holds one, the model accepts all tuples. -/
theorem tuples_fit {r : Resource} {resolved : Option ResolvedRoles} {ts : List Tuple}
    (h : r.tuples resolved = .ok ts) :
    (∀ t ∈ ts,
      (validate t = .ok () ↔
        '#' ∉ t.key.object.toList ∧ (IsDirect t.key.user → '#' ∉ t.key.user.toList)) ∧
      ∃ holder name type id, Fits t.key holder name type id ∧
        ('#' ∉ name.toList → '#' ∉ id.toList → validate t = .ok ())) ∧
    ((∀ s ∈ r.texts resolved, '#' ∉ s.toList) → r.validTuples resolved = .ok ts) := by
  have hbuilt := tuples_builtFrom h
  refine ⟨fun t ht => ?_, fun hunmarked => ?_⟩
  · obtain ⟨-, holder, name, type, id, hfits, -⟩ := hbuilt t ht
    exact ⟨hfits.validate_eq_ok_iff, holder, name, type, id, hfits, hfits.validate_eq_ok⟩
  · refine validTuples_eq_ok_iff.2 ⟨h, fun t ht => ?_⟩
    obtain ⟨-, holder, name, type, id, hfits, hmarks⟩ := hbuilt t ht
    obtain ⟨hname, hid⟩ := hmarks hunmarked
    exact hfits.validate_eq_ok hname hid

/-- A role with a mark in its name. A grant on a thing with a mark in its id is its own, and one on a
folder is taken over. -/
def markedRole : Resource where
  metadata := { name := "ops#1", tenant := some "office" }
  spec := .role { permissions := [⟨"boards:read", "boards:uid:b#1"⟩], refs := ["base"] }

/-- What `markedRole` may take over. -/
def markedResolved : ResolvedRoles :=
  SortedMap.ofList [("base", [⟨"users.permissions:write", "folders:uid:f:1"⟩])]

/-- The mark in the role's name stands in a userset and does no harm, while the one in an id does. -/
theorem tuples_fit_marked :
    let own := Tuple.relate "role:ops#1#assignee" "get" "resource:boards/b#1"
    let taken := Tuple.relate "role:ops#1#assignee" "users_set_permissions" "folder:f:1"
    markedRole.tuples (some markedResolved) = .ok [own, taken] ∧
      validate own ≠ .ok () ∧ validate taken = .ok () := by
  intro own taken
  have h : markedRole.tuples (some markedResolved) = .ok [own, taken] := by rfl
  obtain ⟨hfit, -⟩ := tuples_fit h
  refine ⟨h, fun hown => ?_, (hfit taken (by simp)).1.2 ⟨?_, ?_⟩⟩
  · exact ((hfit own (by simp)).1.1 hown).1 (by decide)
  · decide
  · -- A userset of a role is nobody's own reference.
    rintro ⟨type, htype, name, huser⟩
    have hcolon : ∀ type ∈ ["user", "service-account", "folder"], ':' ∉ type.toList := by decide
    have huser : objectRef "role" "ops#1#assignee" = objectRef type name := huser
    have hrole : "role" ∈ ["user", "service-account", "folder"] :=
      eq_of_objectRef_eq (by decide) (hcolon type htype) huser ▸ htype
    revert hrole
    decide

end Resource

end PolicySync
