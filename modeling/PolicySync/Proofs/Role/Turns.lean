import PolicySync.Proofs.Role.Outcome

/-!
# The turns of the worklist of roles

`takenUp` lists the roles that the worklist takes up turn by turn, and `madeReady` those that it makes
ready, one release at a time. `Orderly` says how they account for the worklist before any turn: what a
role still waits for are its references to roles that are not taken up, and the ready roles are those
made ready and not taken up yet, none of them twice. `SoundTurn` is about the turn itself: nothing that the
role refers to is missing, and each release is of a role that waits. So the worklist is done after one
turn for each role at most (`turns_orderly`).
-/

namespace PolicySync

namespace Worklist

variable {roles : Roles} {w : Worklist} {d name : String} {rest due : List String}

/-! ## One release after the other -/

/-- The roles that releases make ready, in order: each with the release that its count says is the
last. -/
def freed (w : Worklist) : List String → List String
  | [] => []
  | d :: due => (if w.waiting.get? d = some 1 then [d] else []) ++ freed (w.release d) due

/-- A role whose release is due still waits. -/
theorem Balanced.exists_waiting (h : Balanced roles (d :: due) w) (hd : roles.contains d = true) :
    ∃ k, w.waiting.get? d = some (k + 1) := by
  refine ⟨pending roles w.resolved d + due.count d, ?_⟩
  rw [h.waiting_eq d hd, List.count_cons_self, Nat.add_assoc]

/-- A role gets ready when the last role that it waits for releases it. -/
theorem Balanced.ready_release (h : Balanced roles (d :: due) w) (hd : roles.contains d = true) :
    (w.release d).ready = w.ready ++ if w.waiting.get? d = some 1 then [d] else [] := by
  obtain ⟨k, hk⟩ := h.exists_waiting hd
  cases k with
  | zero => simp [Worklist.release, hk]
  | succ k => simp [Worklist.release, hk]

/-- After several releases those are ready whose last wait was among them. -/
theorem Balanced.ready_foldl_release (h : Balanced roles due w)
    (hdue : ∀ d ∈ due, roles.contains d = true) :
    (due.foldl Worklist.release w).ready = w.ready ++ freed w due := by
  induction due generalizing w with
  | nil => simp [freed]
  | cons d due ih =>
    obtain ⟨hd, hrest⟩ := List.forall_mem_cons.1 hdue
    rw [List.foldl_cons, ih (h.release hd) hrest, h.ready_release hd, freed, List.append_assoc]

/-! ## One turn after the other -/

/-- The worklist after a number of turns. -/
def after (roles : Roles) (n : Nat) : Worklist := run roles n (start roles)

/-- The roles that a number of turns take up, in order. -/
def takenUp (roles : Roles) : Nat → List String
  | 0 => []
  | n + 1 => takenUp roles n ++ (after roles n).ready.head?.toList

/-- The roles that one turn makes ready, in order. -/
def freedIn (roles : Roles) (w : Worklist) : List String :=
  match w.ready with
  | [] => []
  | name :: rest => freed (resolving roles w name rest) (roles.dependents name)

/-- The roles made ready by a number of turns, in order, those that are ready at the start first. -/
def madeReady (roles : Roles) : Nat → List String
  | 0 => (start roles).ready
  | n + 1 => madeReady roles n ++ freedIn roles (after roles n)

/-- The last turn may be split off as well as the first. -/
theorem run_succ (n : Nat) (w : Worklist) : run roles (n + 1) w = step roles (run roles n w) := by
  induction n generalizing w with
  | zero => rfl
  | succ n ih => rw [run, ih, run]

/-- One more turn from the start. -/
theorem after_succ (n : Nat) : after roles (n + 1) = step roles (after roles n) := run_succ n _

/-- The counts of waits are right at every turn. -/
theorem balanced_after (roles : Roles) (n : Nat) : Balanced roles [] (after roles n) :=
  (run_spec n (balanced_start roles) .start).1

/-- The ready roles after a turn: the first one is gone, and the roles that it frees are at the end. -/
theorem Balanced.ready_step (h : Balanced roles [] w) :
    (step roles w).ready = w.ready.tail ++ freedIn roles w := by
  cases hready : w.ready with
  | nil => simp [step, freedIn, hready]
  | cons name rest =>
    rw [step_of_ready hready, (h.resolving hready).ready_foldl_release
      fun d hd => Roles.contains_of_mem_dependents hd]
    simp [freedIn, hready, Worklist.resolving]

/-- A turn resolves the role that it takes up and no other. -/
theorem contains_step : (step roles w).resolved.contains d = true ↔
    w.resolved.contains d = true ∨ d ∈ w.ready.head?.toList := by
  cases hready : w.ready with
  | nil => simp [step, hready]
  | cons name rest =>
    rw [step_of_ready hready, foldl_release_resolved, resolving, SortedMap.contains_insert, or_comm]
    simp

/-- What is resolved has been taken up. -/
theorem contains_after_iff (n : Nat) :
    (after roles n).resolved.contains d = true ↔ d ∈ takenUp roles n := by
  induction n with
  | zero => simp [after, run, start, takenUp]
  | succ n ih =>
    rw [after_succ, contains_step, ih, takenUp, List.mem_append]

/-- What was made ready was taken up or still waits for its turn. -/
theorem madeReady_eq (n : Nat) :
    madeReady roles n = takenUp roles n ++ (after roles n).ready := by
  induction n with
  | zero => rfl
  | succ n ih =>
    have hhead : (after roles n).ready =
        (after roles n).ready.head?.toList ++ (after roles n).ready.tail := by
      cases (after roles n).ready <;> rfl
    rw [madeReady, ih, after_succ, (balanced_after roles n).ready_step, takenUp]
    conv_lhs => rw [hhead]
    simp only [List.append_assoc]

/-- No role gets ready twice. -/
theorem nodup_madeReady (roles : Roles) (n : Nat) : (madeReady roles n).Nodup := by
  have hdisjoint : ∀ m, ∀ a ∈ takenUp roles m, ∀ b ∈ (after roles m).ready, a ≠ b := by
    rintro m a ha b hb rfl
    exact (balanced_after roles m).ready_fresh a hb ((contains_after_iff m).2 ha)
  have htaken : ∀ m, (takenUp roles m).Nodup := by
    intro m
    induction m with
    | zero => exact List.nodup_nil
    | succ m ih =>
      refine List.nodup_append.2 ⟨ih, ?_, fun a ha b hb => hdisjoint m a ha b ?_⟩
      · cases (after roles m).ready.head? <;> simp
      · exact List.mem_of_mem_head? (Option.mem_toList.1 hb)
  rw [madeReady_eq]
  exact List.nodup_append.2 ⟨htaken n, (balanced_after roles n).ready_nodup, hdisjoint n⟩

/-- Without a ready role the worklist stays as it is. -/
theorem after_of_ready_nil {k n : Nat} (h : (after roles k).ready = []) (hle : k ≤ n) :
    after roles n = after roles k := by
  induction n, hle using Nat.le_induction with
  | base => rfl
  | succ n _ ih => rw [after_succ, ih, step, h]

/-! ## What holds before every turn -/

/-- How the roles taken up and made ready account for the worklist after a number of turns. -/
structure Orderly (roles : Roles) (n : Nat) : Prop where
  /-- A role waits for its references to roles that are not taken up, repeated ones repeatedly. -/
  waiting_eq : ∀ d, roles.contains d = true → (after roles n).waiting.get? d =
    some ((roles.specOf d).refs.countP (· ∉ takenUp roles n))
  /-- The resolved roles are those taken up. -/
  resolved_iff : ∀ d, (after roles n).resolved.contains d = true ↔ d ∈ takenUp roles n
  /-- The ready roles are those made ready that are not taken up, in the same order. -/
  ready_eq : madeReady roles n = takenUp roles n ++ (after roles n).ready
  /-- No role is made ready twice. -/
  madeReady_nodup : (madeReady roles n).Nodup
  /-- No role is taken up twice. -/
  takenUp_nodup : (takenUp roles n).Nodup

/-- The turn that takes up a role loses nothing and counts no role below zero. -/
structure SoundTurn (roles : Roles) (w : Worklist) (name : String) (rest : List String) : Prop where
  /-- What the role refers to is resolved. -/
  contains_ref : ∀ ref, roles.Refers name ref → w.resolved.contains ref = true
  /-- None of the references is left out when permissions are taken over. -/
  filterMap_eq : (roles.specOf name).refs.map w.resolved.get? =
    ((roles.specOf name).refs.filterMap w.resolved.get?).map some
  /-- The turn resolves the role and then releases those that wait for it. -/
  step_eq : step roles w = (roles.dependents name).foldl release (resolving roles w name rest)
  /-- Whichever role is released, it still waits for one reference at least. -/
  exists_waiting : ∀ before d later, roles.dependents name = before ++ d :: later →
    ∃ k, (before.foldl release (resolving roles w name rest)).waiting.get? d = some (k + 1)

/-- The order of turns holds at every turn. -/
theorem orderly_after (roles : Roles) (n : Nat) : Orderly roles n := by
  have hnodup := nodup_madeReady roles n
  refine ⟨?_, fun _ => contains_after_iff n, madeReady_eq n, hnodup, ?_⟩
  · intro d hd
    rw [(balanced_after roles n).waiting_eq d hd, List.count_nil, Nat.add_zero, pending]
    refine congrArg some (List.countP_congr fun ref _ => ?_)
    rw [Bool.not_eq_true', ← Bool.not_eq_true, contains_after_iff, decide_eq_true_eq]
  · rw [madeReady_eq] at hnodup
    exact (List.nodup_append.1 hnodup).1

/-- Looking up what is there leaves nothing out. -/
theorem map_get?_eq {m : ResolvedRoles} {refs : List String}
    (h : ∀ ref ∈ refs, m.contains ref = true) : refs.map m.get? = (refs.filterMap m.get?).map some := by
  induction refs with
  | nil => rfl
  | cons ref refs ih =>
    obtain ⟨href, hrest⟩ := List.forall_mem_cons.1 h
    obtain ⟨ps, hps⟩ := SortedMap.contains_iff.1 href
    rw [List.map_cons, ih hrest, List.filterMap_cons_some hps, hps, List.map_cons]

/-- A turn that starts with right counts goes as it should. -/
theorem Balanced.soundTurn (h : Balanced roles [] w) (hready : w.ready = name :: rest) :
    SoundTurn roles w name rest := by
  have hrefs : ∀ ref, roles.Refers name ref → w.resolved.contains ref = true := fun _ =>
    h.contains_ref (hready ▸ List.mem_cons_self)
  refine ⟨hrefs, map_get?_eq hrefs, step_of_ready hready, fun before d later hsplit => ?_⟩
  have hexists : ∀ e ∈ before ++ d :: later, roles.contains e = true := fun e he =>
    Roles.contains_of_mem_dependents (hsplit ▸ he)
  have hbal := h.resolving hready
  rw [hsplit] at hbal
  have hdue := hbal.foldl_release fun e he => hexists e (List.mem_append_left _ he)
  exact hdue.exists_waiting (hexists d (by simp))

end Worklist

/-- Before every turn the worklist is as the roles taken up and made ready account for, the next turn
loses no reference and counts no role below zero, and after one turn for each role at most no role is
ready any more. What is resolved then is what resolution comes to. -/
theorem turns_orderly {roles : Roles} (hclosed : roles.Closed) :
    (∀ n, Worklist.Orderly roles n ∧ ∀ name rest, (Worklist.after roles n).ready = name :: rest →
      Worklist.SoundTurn roles (Worklist.after roles n) name rest) ∧
    ∃ k ≤ roles.size, (∀ n, (Worklist.after roles n).ready = [] ↔ k ≤ n) ∧
      resolve roles =
        let resolved := (Worklist.after roles k).resolved
        if resolved.size < roles.size then
          .error (.cycle (roles.keys.filter fun name => !resolved.contains name))
        else .ok resolved := by
  refine ⟨fun n => ⟨Worklist.orderly_after roles n, fun _ _ =>
    (Worklist.balanced_after roles n).soundTurn⟩, ?_⟩
  have hdone : ∃ k, (Worklist.after roles k).ready = [] := ⟨_, Worklist.ready_run_size roles⟩
  have hle : Nat.find hdone ≤ roles.size := Nat.find_min' hdone (Worklist.ready_run_size roles)
  refine ⟨Nat.find hdone, hle, fun n => ⟨Nat.find_min' hdone, fun hn => ?_⟩, ?_⟩
  · rw [Worklist.after_of_ready_nil (Nat.find_spec hdone) hn]
    exact Nat.find_spec hdone
  · rw [← Worklist.after_of_ready_nil (Nat.find_spec hdone) hle, resolve,
      Roles.firstUnknown?_eq_none_iff.2 hclosed]
    rfl

/-- Roles of which one refers to another twice, one to itself, and three wait for the same. -/
def tangledRoles : Roles := SortedMap.ofList [
  ("base", {}),
  ("loop", { refs := ["loop", "base"] }),
  ("pair", { refs := ["base", "base"] }),
  ("side", { refs := ["base"] })]

/-- The base frees two roles, and the role that refers to itself goes on waiting for itself. -/
theorem turns_orderly_tangled : tangledRoles.Closed ∧
    Worklist.madeReady tangledRoles 1 = ["base"] ++ ["pair", "side"] ∧
    (Worklist.after tangledRoles 1).waiting.get? "loop" = some 1 ∧
    ∃ k ≤ 4, (Worklist.after tangledRoles k).ready = [] := by
  have hclosed : tangledRoles.Closed := Roles.firstUnknown?_eq_none_iff.1 rfl
  obtain ⟨hturns, k, hk, hdone, -⟩ := turns_orderly hclosed
  have horderly := (hturns 1).1
  have htaken : Worklist.takenUp tangledRoles 1 = ["base"] := rfl
  refine ⟨hclosed, ?_, ?_, k, hk, (hdone k).2 (Nat.le_refl k)⟩
  · rw [horderly.ready_eq, htaken]
    rfl
  · rw [horderly.waiting_eq "loop" rfl, htaken]
    rfl

end PolicySync
