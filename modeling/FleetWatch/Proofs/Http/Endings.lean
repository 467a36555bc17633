import FleetWatch.Http.Exchange

/-!
# How an exchange ends

What the network replies decides how an exchange ends.  A reply that is no redirect is the last one;
a redirect is as good as the reply to the request that it leads to, as long as one is left.

* `ends_follow`: following the redirects gets to the end.
* `ends_iff`: there is no other.
-/

namespace FleetWatch.Http

/-- What an exchange that begins with a request ends with, where so many redirects are left to follow
and so many requests came before. -/
inductive Ends (network : Network) : (left earlier : Nat) → Request → Reply → Prop where
  | failed {left earlier : Nat} {request : Request} {reason : String}
      (reply : network earlier request = .failure reason) :
      Ends network left earlier request (.failure (sendFailure request.url reason))
  | silent {left earlier : Nat} {request : Request} (reply : network earlier request = .silence) :
      Ends network left earlier request .silence
  | answered {left earlier : Nat} {request : Request} {r : Response}
      (reply : network earlier request = .response r) (final : r.redirect? request.url = none) :
      Ends network left earlier request (.response r)
  | redirected {left earlier : Nat} {request : Request} {r : Response} {url : Url} {last : Reply}
      (reply : network earlier request = .response r)
      (redirect : r.redirect? request.url = some url)
      (rest : Ends network left (earlier + 1) (request.redirected url) last) :
      Ends network (left + 1) earlier request last
  | exhausted {earlier : Nat} {request : Request} {r : Response} {url : Url}
      (reply : network earlier request = .response r)
      (redirect : r.redirect? request.url = some url) :
      Ends network 0 earlier request (.failure (tooManyRedirects url))

theorem Ends.eq_ending {network : Network} {left earlier : Nat} {request : Request} {reply : Reply}
    (ends : Ends network left earlier request reply) :
    reply = (follow network left earlier request).ending := by
  induction ends with
  | failed reply => simp [follow, reply]
  | silent reply => simp [follow, reply]
  | answered reply final => simp [follow, reply, final]
  | redirected reply redirect rest ih =>
    unfold follow
    simp [reply, redirect, ih]
  | exhausted reply redirect => simp [follow, reply, redirect]

theorem ends_follow (network : Network) (left earlier : Nat) (request : Request) :
    Ends network left earlier request (follow network left earlier request).ending := by
  induction left generalizing earlier request with
  | zero =>
    unfold follow
    cases reply : network earlier request with
    | failure reason => exact .failed reply
    | silence => exact .silent reply
    | response r =>
      cases redirect : r.redirect? request.url with
      | none => simpa [redirect] using .answered reply redirect
      | some url => simpa [redirect] using .exhausted reply redirect
  | succ left ih =>
    unfold follow
    cases reply : network earlier request with
    | failure reason => exact .failed reply
    | silence => exact .silent reply
    | response r =>
      cases redirect : r.redirect? request.url with
      | none => simpa [redirect] using .answered reply redirect
      | some url =>
        simpa [redirect] using .redirected reply redirect (ih (earlier + 1) (request.redirected url))

theorem ends_iff {network : Network} {left earlier : Nat} {request : Request} {reply : Reply} :
    Ends network left earlier request reply ↔
      reply = (follow network left earlier request).ending := by
  constructor
  · exact Ends.eq_ending
  · rintro rfl
    exact ends_follow network left earlier request

end FleetWatch.Http
