import TagCatalog.Error

/-!
# Challenge sets

The challenges of one reply to a probe, in order. Only the status 401 brings challenges; then there
must be at least one, and all of them must read.

* `ChallengeSet`, `ChallengeSet.find?`, `ChallengeSet.isEmpty`;
* `ChallengeSet.ofReply`.
-/

namespace TagCatalog

/-- The challenges of a registry, in the order it gave them. -/
structure ChallengeSet where
  challenges : List Challenge
  deriving DecidableEq, Repr

namespace ChallengeSet

/-- The registry asks for no authentication. -/
def isEmpty (s : ChallengeSet) : Bool := s.challenges.isEmpty

/-- The first challenge of a scheme. -/
def find? (s : ChallengeSet) (scheme : Scheme) : Option Challenge :=
  s.challenges.find? (·.scheme == scheme)

/-- The header that carries challenges. -/
def headerName : String := "WWW-Authenticate"

/-- The challenge of a header value. -/
def ofValue (value : String) : Except CatalogError Challenge :=
  if Http.isReadable value then (Challenge.parse value).mapError .badChallenge
  else .error .unreadableChallenge

/-- The challenges of a reply with a status and headers. -/
def ofReply (status : Nat) (headers : Http.Headers) : Except CatalogError ChallengeSet :=
  if status ≠ 401 then .ok ⟨[]⟩
  else do
    match ← (headers.values headerName).mapM ofValue with
    | [] => .error .noChallenge
    | challenges => .ok ⟨challenges⟩

end ChallengeSet

end TagCatalog
