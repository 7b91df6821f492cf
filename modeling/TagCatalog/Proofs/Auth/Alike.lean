import TagCatalog.Auth.Authorizer
import TagCatalog.Proofs.Auth.Exchange
import TagCatalog.Proofs.Session.Alike
import TagCatalog.Proofs.Text.Base64

/-!
# Authorization with different passwords

A password is presented in an `Authorization` header and nowhere else. Whatever it is, the header
can be sent, so it decides neither whether a request goes out nor what becomes of the answer.

* `Credentials.isSendable_headerValue`: credentials of all kinds can be sent;
* `Http.Call.Alike`, `Http.exchange_alike`: calls that differ in the values of their headers only;
* `Token.fetch_alike`: a token is the same whatever the password it was asked for with;
* **`Authorizer.headerValue_alike`**: the header of a request.
-/

namespace TagCatalog

/-! ## Headers that can be sent -/

theorem Credentials.isSendable_headerValue (c : Credentials) : Http.isSendable c.headerValue := by
  rw [headerValue, Http.isSendable, String.toList_append, List.all_append, Bool.and_eq_true]
  refine ⟨by decide, List.all_eq_true.2 ?_⟩
  rw [String.toList_ofList]
  exact Text.Base64.forall_mem_encode
    (p := fun c => (c == '\t' || (0x20 ≤ c.toNat && c.toNat != 0x7F)) = true)
    (by decide) (by decide) c.bytes

namespace Http

/-! ## Exchanges -/

/-- The call without the values of its `Authorization` headers. -/
def Call.masked (c : Call) : Call := { c with authorization := c.authorization.map fun _ => "" }

/-- Two calls differ in the values of `Authorization` headers only, and both or neither can be
sent. -/
structure Call.Alike (c c' : Call) : Prop where
  masked : c.masked = c'.masked
  sendable : c.authorization.all isSendable = c'.authorization.all isSendable

variable {c c' : Call}

theorem Call.masked_url (h : c.masked = c'.masked) : c.url = c'.url := by
  have hurl : c.masked.url = c'.masked.url := by rw [h]
  exact hurl

theorem Call.masked_request (c : Call) : c.request.masked = c.masked.request := rfl

theorem Call.masked_redirected (c : Call) (status : Nat) (target : Url) :
    (c.redirected status target).masked = c.masked.redirected status target := by
  simp only [redirected, masked, apply_ite (List.map _), List.map_nil]
  rfl

theorem follow_alike (left : Nat) (h : c.masked = c'.masked) :
    Session.Alike Eq (follow left c) (follow left c') := by
  induction left using Nat.strongRecOn generalizing c c' with
  | _ left ih =>
    rw [follow, follow, Call.masked_url h]
    split
    · exact .done rfl
    · refine .send (by rw [Call.masked_request, Call.masked_request, h]) fun answer => ?_
      cases answer with
      | refused | timedOut | dropped => exact .done rfl
      | reply reply =>
        dsimp only
        split
        · exact .done rfl
        · cases left with
          | zero => exact .done rfl
          | succ left =>
            refine ih left (Nat.lt_succ_self left) ?_
            rw [Call.masked_redirected, Call.masked_redirected, h]

theorem Call.Alike.withUserMoved (h : c.Alike c') : c.withUserMoved.Alike c'.withUserMoved := by
  unfold Call.withUserMoved
  rw [masked_url h.masked]
  cases user? c'.url with
  | none => exact h
  | some user =>
    refine ⟨?_, ?_⟩
    · have hmoved : ∀ c : Call, Call.masked { c with
          url := c'.url.withoutUser, authorization := user.headerValue :: c.authorization } =
          { c.masked with
            url := c'.url.withoutUser, authorization := "" :: c.masked.authorization } :=
        fun _ => rfl
      rw [hmoved, hmoved, h.masked]
    · simp [h.sendable]

theorem exchange_alike (h : c.Alike c') : Session.Alike Eq (exchange c) (exchange c') := by
  have h' := h.withUserMoved
  rw [exchange, exchange, h'.sendable, Call.masked_url h'.masked]
  split
  · exact follow_alike _ h'.masked
  · exact .done rfl

theorem Call.alike_authorize (c : Call) {header header' : Option String}
    (h : header.map isSendable = header'.map isSendable) :
    (c.authorize header).Alike (c.authorize header') := by
  cases header with
  | none =>
    cases header' with
    | none => exact ⟨rfl, rfl⟩
    | some _ => nomatch h
  | some value =>
    cases header' with
    | none => nomatch h
    | some value' =>
      refine ⟨?_, ?_⟩
      · simp [Call.masked, Call.authorize]
      · simp only [Option.map_some, Option.some.injEq] at h
        simp [Call.authorize, h]

end Http

theorem Credentials.map_isSendable {c c' : Option Credentials}
    (h : c.map Credentials.username = c'.map Credentials.username) :
    (c.map Credentials.headerValue).map Http.isSendable =
      (c'.map Credentials.headerValue).map Http.isSendable := by
  cases c with
  | none =>
    cases c' with
    | none => rfl
    | some _ => nomatch h
  | some c =>
    cases c' with
    | none => nomatch h
    | some c' => simp [Credentials.isSendable_headerValue]

/-! ## Tokens and headers -/

namespace Token

variable {realm : Url} {service scope : String}

theorem ofResponse_alike (response : Http.Response) :
    Session.Alike Eq (ofResponse realm service response) (ofResponse realm service response) := by
  unfold ofResponse
  dsimp only
  split
  · split
    · exact .fail _
    · next tokens _ =>
      have hfinish : Session.Alike Eq (finish tokens) (finish tokens) := by
        rw [finish]
        split
        · exact .done rfl
        · exact .fail _
      split
      · exact .keepRefresh realm service _ hfinish
      · exact hfinish
  · exact .fail _

theorem exchange_alike {c c' : Http.Call} (h : c.Alike c') :
    Session.Alike Eq (exchange realm service c) (exchange realm service c') := by
  refine (Http.exchange_alike h).bind ?_
  rintro sent _ rfl
  cases sent with
  | error e => exact .fail _
  | ok response => exact ofResponse_alike response

/-- A token is the same whatever the password it was asked for with. -/
theorem fetch_alike (challenge : Challenge) (scope : String) :
    Session.Alike Eq (fetch challenge scope) (fetch challenge scope) := by
  unfold fetch
  split
  · exact .fail _
  · split
    · exact .fail _
    · next realm _ =>
      refine .askRefresh realm _ fun kept => ?_
      cases kept with
      | some token => exact exchange_alike ⟨rfl, rfl⟩
      | none =>
        refine .askBasic realm fun c c' h => ?_
        exact exchange_alike (Http.Call.alike_authorize _ (Credentials.map_isSendable h))

end Token

/-- **The header of a request** is there or not whatever the password, and can be sent or not. -/
theorem Authorizer.headerValue_alike (a : Authorizer) :
    Session.Alike (fun header header' => header.map Http.isSendable = header'.map Http.isSendable)
      a.headerValue a.headerValue := by
  unfold headerValue
  split
  · refine (Token.fetch_alike _ a.scope).bind ?_
    rintro token _ rfl
    exact .done rfl
  · split
    · refine .askBasic a.registry fun c c' h => ?_
      cases c with
      | none =>
        cases c' with
        | none => exact .fail _
        | some _ => nomatch h
      | some c =>
        cases c' with
        | none => nomatch h
        | some c' => exact .done (by simp [Credentials.isSendable_headerValue])
    · exact .done rfl

end TagCatalog
