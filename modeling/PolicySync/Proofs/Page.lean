import PolicySync.Page

/-!
# Walking through pages

Whoever reads a long list asks for its first page without a token and for every further one with the
token that the page before named. `PageWalk` says how that goes with a source that may change with
every request: pages come until one names no other, or until one cannot be had. How many there are,
how large they are and what their tokens look like is up to the source.
-/

namespace PolicySync

variable {α ε : Type} {W : Type u}

/-- From the page of a token on, a source brings some pages, each at the token of the one before, and
then there are no more, or the next one cannot be had. -/
inductive PageWalk (ask : Option String → W → Except ε (Page α) × W) :
    Option String → W → List (Page α) → Except ε Unit → W → Prop where
  /-- The page names no other. -/
  | last {token : Option String} {w w' : W} {page : Page α} (hpage : ask token w = (.ok page, w'))
      (hnext : nextToken page.next = none) : PageWalk ask token w [page] (.ok ()) w'
  /-- The page names the next one. -/
  | more {token : Option String} {w w₁ w' : W} {page : Page α} {next : String}
      {pages : List (Page α)} {result : Except ε Unit} (hpage : ask token w = (.ok page, w₁))
      (hnext : nextToken page.next = some next)
      (hrest : PageWalk ask (some next) w₁ pages result w') :
      PageWalk ask token w (page :: pages) result w'
  /-- There is no page to be had. -/
  | failed {token : Option String} {w w' : W} {e : ε} (hpage : ask token w = (.error e, w')) :
      PageWalk ask token w [] (.error e) w'

end PolicySync
