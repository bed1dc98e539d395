import PolicySync.Http.Form

/-!
# Targets of requests

A request goes to a target: a path on a server and parameters. `Target.of?` makes it from the text
of the path and the parameters that are added after a question mark. As the path is taken as it is,
a question mark of its own starts the parameters early, and a number sign ends the target.
-/

namespace PolicySync.Http

/-- Where a request goes. -/
structure Target where
  path : String
  query : List (String × String)
  deriving DecidableEq, Repr

/-- Whether a character can be in a path: no blank, control, angle bracket or grave accent can. -/
def isPathChar (c : Char) : Bool :=
  ' ' < c && !(['<', '>', '\x60', '\x7f'].contains c)

/-- Whether a character can be in parameters: no blank, control, angle bracket or quote can. -/
def isQueryChar (c : Char) : Bool :=
  ' ' < c && !(['<', '>', '"', '\x7f'].contains c)

/-- The most bytes of a target when it is written. -/
def targetLimit : Nat := 65534

/-- The target of a path's text with parameters after it, if they can be written as one. -/
def Target.of? (path : String) (params : List (String × String)) : Option Target :=
  let given := path.toList ++ ['?']
  let isEnded := given.contains '#'
  let kept := given.takeWhile (· != '#')
  let front := kept.takeWhile (· != '?')
  let own := (kept.dropWhile (· != '?')).tail
  if front.all isPathChar && own.all isQueryChar
      && path.utf8ByteSize + 1 + Form.size params ≤ targetLimit then
    some {
      path := String.ofList front
      query := Form.decode own ++ if isEnded then [] else params }
  else none

/-- A path without a mark of its own is kept as it is, and so are the parameters. -/
theorem Target.of?_eq_some {path : String} {params : List (String × String)} {target : Target}
    (hplain : ∀ c ∈ path.toList, c ≠ '#' ∧ c ≠ '?') (h : of? path params = some target) :
    target = { path, query := params } := by
  have hmark : ∀ c ∈ path.toList, (c != '?') = true := fun c hc => by simpa using (hplain c hc).2
  have hsign : ∀ c ∈ path.toList, (c != '#') = true := fun c hc => by simpa using (hplain c hc).1
  have hkept : (path.toList ++ ['?']).takeWhile (· != '#') = path.toList ++ ['?'] :=
    List.takeWhile_append_of_pos hsign
  have hfront : (path.toList ++ ['?']).takeWhile (· != '?') = path.toList :=
    (List.takeWhile_append_of_pos hmark).trans (List.append_nil _)
  have hown : (path.toList ++ ['?']).dropWhile (· != '?') = ['?'] :=
    List.dropWhile_append_of_pos hmark
  have hended : (path.toList ++ ['?']).contains '#' = false := by
    simpa using fun hc => (hplain '#' hc).1 rfl
  unfold of? at h
  simp only [hkept, hended, hfront, hown] at h
  split at h
  · cases h
    simp [Form.decode, Text.pieces]
  · cases h

end PolicySync.Http
