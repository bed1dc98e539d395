import PolicySync.Proofs.Page
import PolicySync.Proofs.Script

/-!
# Scripts that follow pages

An environment that is `recording` notes every question, so the end of a script tells what was asked
and in which order. A script that `Follows` pages asks at every token for the page there, and goes on
with the token that this page names. From that one step it follows for the walk through all pages, by
induction on the walk, that such a script `Collects` them: it asks for each page once, for no other,
and what it makes of them is made of the items of all of them.
-/

namespace PolicySync.Script

variable {Q : Type} {A : Q → Type} {α β ε : Type} {W : Type u}

/-- An environment that notes every question it answers, in order. -/
def recording (answer : (q : Q) → W → A q × W) (q : Q) (s : W × List Q) : A q × (W × List Q) :=
  ((answer q s.1).1, (answer q s.1).2, s.2 ++ [q])

/-- Whatever pages there are, a script asks for each of them once, in order and for no other one, and
makes something of all their items. If one of the pages cannot be had, it fails. -/
structure Collects (answer : (q : Q) → W → A q × W)
    (ask : Option String → W → Except ε (Page α) × W) (request : Option String → Q)
    (script : Script Q A (Except ε β)) (made : List α → β → Prop) : Prop where
  /-- After the last page the script ends. It has asked without a token first, and then with the token
  of every page but the last. -/
  complete : ∀ {w w' pages}, PageWalk ask none w pages (.ok ()) w' → ∃ out,
    Ends (recording answer) script (w, []) (.ok out)
        (w', (none :: pages.dropLast.map (·.next)).map request) ∧
      made (pages.flatMap (·.items)) out
  /-- Without a page the script ends with the error. It has asked for the pages that it got, and for
  the missing one unless that cannot even be asked for. -/
  failed : ∀ {w w' pages e}, PageWalk ask none w pages (.error e) w' → ∃ requests,
    Ends (recording answer) script (w, []) (.error e) (w', requests) ∧
      requests <+: (none :: pages.map (·.next)).map request ∧ pages.length ≤ requests.length

/-- From every token on, with the items seen before, a script asks for the page there. Then it goes on
from the next token, or ends when there is none. -/
structure Follows (answer : (q : Q) → W → A q × W)
    (ask : Option String → W → Except ε (Page α) × W) (request : Option String → Q)
    (follow : List α → Option String → Script Q A (Except ε β)) (finish : List α → β) : Prop where
  last : ∀ {seen token w w' log page}, ask token w = (.ok page, w') → nextToken page.next = none →
    Ends (recording answer) (follow seen token) (w, log) (.ok (finish (seen ++ page.items)))
      (w', log ++ [request token])
  more : ∀ {seen token w w' log page next r s}, ask token w = (.ok page, w') →
    nextToken page.next = some next →
    Ends (recording answer) (follow (seen ++ page.items) (some next)) (w', log ++ [request token])
      r s →
    Ends (recording answer) (follow seen token) (w, log) r s
  failed : ∀ {token w w' e}, ask token w = (.error e, w') → ∀ seen log, ∃ asked,
    asked <+: [request token] ∧
      Ends (recording answer) (follow seen token) (w, log) (.error e) (w', log ++ asked)

namespace Follows

variable {answer : (q : Q) → W → A q × W} {ask : Option String → W → Except ε (Page α) × W}
  {request : Option String → Q} {follow : List α → Option String → Script Q A (Except ε β)}
  {finish : List α → β} {token : Option String} {w w' : W} {pages : List (Page α)}

/-- A walk to the last page takes the script to its end. -/
theorem ends_of_walk (h : Follows answer ask request follow finish)
    (hwalk : PageWalk ask token w pages (.ok ()) w') (seen : List α) (log : List Q) :
    Ends (recording answer) (follow seen token) (w, log)
      (.ok (finish (seen ++ pages.flatMap (·.items))))
      (w', log ++ (token :: pages.dropLast.map (·.next)).map request) := by
  generalize hresult : (.ok () : Except ε Unit) = result at hwalk
  induction hwalk generalizing seen log with
  | last hpage hnext => simpa using h.last hpage hnext
  | @more token w w₁ w' page next pages result hpage hnext hrest ih =>
    have hpages : pages ≠ [] := by
      rintro rfl
      cases hrest
      cases hresult
    have hrest := h.more hpage hnext (ih (seen ++ page.items) (log ++ [request token]) hresult)
    have htoken : page.next = some next := (nextToken_eq_some_iff.1 hnext).1
    rw [List.dropLast_cons_of_ne_nil hpages, List.map_cons (l := pages.dropLast), htoken]
    simpa using hrest
  | failed => cases hresult

/-- A walk that ends without a page takes the script to an error. -/
theorem ends_of_failed_walk (h : Follows answer ask request follow finish) {e : ε}
    (hwalk : PageWalk ask token w pages (.error e) w') (seen : List α) (log : List Q) :
    ∃ asked, asked <+: (token :: pages.map (·.next)).map request ∧ pages.length ≤ asked.length ∧
      Ends (recording answer) (follow seen token) (w, log) (.error e) (w', log ++ asked) := by
  generalize hresult : (.error e : Except ε Unit) = result at hwalk
  induction hwalk generalizing seen log with
  | last => cases hresult
  | @more token w w₁ w' page next pages result hpage hnext hrest ih =>
    obtain ⟨asked, hprefix, hlength, hends⟩ :=
      ih (seen ++ page.items) (log ++ [request token]) hresult
    have htoken : page.next = some next := (nextToken_eq_some_iff.1 hnext).1
    refine ⟨request token :: asked, ?_, Nat.succ_le_succ hlength, ?_⟩
    · rw [List.map_cons (l := pages), htoken]
      exact List.cons_prefix_cons.2 ⟨rfl, hprefix⟩
    · simpa using h.more hpage hnext hends
  | failed hpage =>
    cases hresult
    obtain ⟨asked, hprefix, hends⟩ := h.failed hpage seen log
    exact ⟨asked, hprefix, Nat.zero_le _, hends⟩

/-- A script that follows pages collects them. -/
theorem collects (h : Follows answer ask request follow finish) {made : List α → β → Prop}
    (hmade : ∀ items, made items (finish items)) :
    Collects answer ask request (follow [] none) made where
  complete {w w' pages} hwalk := by
    refine ⟨finish (pages.flatMap (·.items)), ?_, hmade _⟩
    simpa using h.ends_of_walk hwalk [] []
  failed hwalk := by
    obtain ⟨asked, hprefix, hlength, hends⟩ := h.ends_of_failed_walk hwalk [] []
    exact ⟨asked, hends, hprefix, hlength⟩

end Follows

end PolicySync.Script
