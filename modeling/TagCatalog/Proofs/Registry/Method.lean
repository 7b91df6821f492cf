import TagCatalog.Proofs.Registry.Origin

/-!
# The requests that ask for a manifest

A manifest is asked for with HEAD, and nothing else is: a registry is probed and a token asked for
with GET, a refresh token is posted, and redirects make no HEAD of another method.

* `Event.isHead`: a HEAD request was sent;
* `Http.emits_exchange_not_isHead`: the calls that send none;
* `Authorizer.emits_headerValue`, `Repository.emits_resolve_not_isHead`: what is done before a
  manifest is asked for.
-/

namespace TagCatalog

/-- A HEAD request was sent. -/
def Event.isHead (e : Event) : Bool := e.request?.any (·.method == .head)

/-- The event is not a HEAD request that was sent. -/
abbrev Event.NotHead (e : Event) : Prop := e.isHead = false

/-! ## Exchanges -/

namespace Http

variable {call : Call}

theorem redirected_method_ne_head (h : call.method ≠ .head) (status : Nat) (target : Url) :
    (call.redirected status target).method ≠ .head := by
  rw [Call.redirected]
  dsimp only
  split
  · nofun
  · exact h

/-- An exchange sends no HEAD, unless its call is one. -/
theorem emits_exchange_not_isHead (h : call.method ≠ .head) :
    (exchange call).Emits Event.NotHead := by
  refine emits_exchange (Q := fun call => call.method ≠ .head) (fun call answer hcall => ?_)
    (fun call status target hcall => redirected_method_ne_head hcall status target) ?_
  · exact beq_eq_false_iff_ne.2 hcall
  · rwa [withUserMoved_method]

end Http

/-! ## Tokens -/

namespace Token

variable {realm : Url} {service scope : String}

theorem emits_ofResponse (response : Http.Response) :
    (ofResponse realm service response).Emits Event.NotHead := by
  intro log r h
  obtain ⟨result, hends, -⟩ := yields_ofResponse_iff.1 h
  cases hends with
  | refused | unread => exact List.forall_mem_nil _
  | tokenless | token =>
    intro e he
    obtain ⟨token, -, rfl⟩ := List.mem_map.1 he
    rfl

theorem emits_exchange {call : Http.Call} (h : call.method ≠ .head) :
    (exchange realm service call).Emits Event.NotHead := by
  refine (Http.emits_exchange_not_isHead h).bind fun sent => ?_
  cases sent with
  | error e => exact Session.emits_fail _
  | ok response => exact emits_ofResponse response

theorem emits_fetch (challenge : Challenge) (scope : String) :
    (fetch challenge scope).Emits Event.NotHead := by
  rw [fetch]
  split
  · exact Session.emits_fail _
  · split
    · exact Session.emits_fail _
    · refine Session.emits_askRefresh fun kept => ⟨rfl, ?_⟩
      cases kept with
      | some token => exact emits_exchange Http.Method.noConfusion
      | none =>
        exact Session.emits_askBasic fun credentials =>
          ⟨rfl, emits_exchange Http.Method.noConfusion⟩

end Token

/-! ## Authorizers and handles -/

theorem Authorizer.emits_headerValue (a : Authorizer) :
    a.headerValue.Emits Event.NotHead := by
  rw [headerValue]
  split
  · exact (Token.emits_fetch _ _).bind fun token => Session.emits_done _
  · split
    · refine Session.emits_askBasic fun credentials => ⟨rfl, ?_⟩
      cases credentials with
      | some c => exact Session.emits_done _
      | none => exact Session.emits_fail _
    · exact Session.emits_done _

theorem Repository.emits_resolve_not_isHead (c : Connection) (repository : String) :
    (resolve c repository).Emits Event.NotHead :=
  Client.emits_resolve (fun _ => Http.emits_exchange_not_isHead nofun) c repository

end TagCatalog
