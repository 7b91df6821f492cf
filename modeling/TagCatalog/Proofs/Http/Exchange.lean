import TagCatalog.Http.Exchange
import TagCatalog.Proofs.Session.Events

/-!
# What an exchange does

* `Http.Goes`, **`Http.yields_follow_cases`**: a call is not sent at all, or it is sent and ends, or
  goes on with a redirect;
* `Http.stopsFor_exchange`: an exchange has a result, if only an error in sending;
* `Http.emits_exchange`: what is kept along redirects shows in every request;
* `Http.isExchange_of_yields`: nothing but requests happens in an exchange;
* **`Http.nil_or_first_of_yields`**: the first request is the call's own, and without one there is
  an error;
* `Http.Hops`, **`Http.hops_of_yields`**: further requests follow redirects, and the last answer is
  the result;
* `Http.exists_reply_of_yields_ok`, `Http.reply_eq_of_yields_ok`: a response is a reply that came.
-/

namespace TagCatalog

/-- A request was sent. -/
def Event.isExchange (e : Event) : Bool := e.request?.isSome

namespace Http

variable {call : Call} {left : Nat} {log : Trace} {r : Except Stop (Except SendError Response)}

/-! ## One request -/

/-- How an exchange goes on after the answer to a call, when some redirects are left. -/
inductive Goes : (left : Nat) → Call → Answer → Trace → Except Stop (Except SendError Response) →
    Prop
  | refused {left : Nat} {call : Call} :
    Goes left call .refused [] (.ok (.error ⟨.refused, call.url⟩))
  | timedOut {left : Nat} {call : Call} :
    Goes left call .timedOut [] (.ok (.error ⟨.timedOut, call.url⟩))
  | dropped {left : Nat} {call : Call} :
    Goes left call .dropped [] (.ok (.error ⟨.dropped, call.url⟩))
  | replied {left : Nat} {call : Call} {reply : Reply}
      (h : (Response.mk reply call.url).target? = none) :
    Goes left call (.reply reply) [] (.ok (.ok ⟨reply, call.url⟩))
  | stopped {call : Call} {reply : Reply} {target : Url}
      (h : (Response.mk reply call.url).target? = some target) :
    Goes 0 call (.reply reply) [] (.ok (.error ⟨.tooManyRedirects, call.url⟩))
  | redirected {left : Nat} {call : Call} {reply : Reply} {target : Url} {log : Trace}
      {r : Except Stop (Except SendError Response)}
      (h : (Response.mk reply call.url).target? = some target)
      (hy : (follow left (call.redirected reply.status target)).Yields log r) :
    Goes (left + 1) call (.reply reply) log r

/-- **One request of an exchange**: the call cannot be addressed and nothing is sent, or it is sent
and goes on after its answer. -/
theorem yields_follow_cases (h : (follow left call).Yields log r) :
    log = [] ∧ r = .ok (.error ⟨.unsendable, call.url⟩) ∨
      call.url.isHttp ∧ ∃ answer rest, log = .exchanged call.request answer :: rest ∧
        Goes left call answer rest r := by
  rw [follow] at h
  by_cases haddr : isAddressable call.url
  · rw [if_neg (by simp [haddr])] at h
    obtain ⟨answer, rest, rfl, hnext⟩ := Session.yields_send_iff.1 h
    simp only [isAddressable, Bool.and_eq_true] at haddr
    refine .inr ⟨haddr.1.1.1, answer, rest, rfl, ?_⟩
    cases answer with
    | refused | timedOut | dropped =>
      obtain ⟨rfl, rfl⟩ := Session.yields_done_iff.1 hnext
      constructor
    | reply reply =>
      dsimp only at hnext
      cases htarget : (Response.mk reply call.url).target? with
      | none =>
        rw [htarget] at hnext
        obtain ⟨rfl, rfl⟩ := Session.yields_done_iff.1 hnext
        exact .replied htarget
      | some target =>
        rw [htarget] at hnext
        cases left with
        | zero =>
          obtain ⟨rfl, rfl⟩ := Session.yields_done_iff.1 hnext
          exact .stopped htarget
        | succ left => exact .redirected htarget hnext
  · rw [if_pos (by simp [haddr])] at h
    exact .inl (Session.yields_done_iff.1 h)

theorem yields_exchange_cases (h : (exchange call).Yields log r) :
    log = [] ∧ r = .ok (.error ⟨.unsendable, call.withUserMoved.url⟩) ∨
      (follow maxRedirects call.withUserMoved).Yields log r := by
  rw [exchange] at h
  split at h
  · exact .inr h
  · exact .inl (Session.yields_done_iff.1 h)

/-! ## The result -/

theorem stopsFor_follow (left : Nat) (call : Call) :
    (follow left call).StopsFor fun _ => False := by
  induction left generalizing call with
  | zero =>
    intro log stop h
    obtain ⟨-, hr⟩ | ⟨-, answer, rest, -, hgoes⟩ := yields_follow_cases h
    · nomatch hr
    · nomatch hgoes
  | succ left ih =>
    intro log stop h
    obtain ⟨-, hr⟩ | ⟨-, answer, rest, -, hgoes⟩ := yields_follow_cases h
    · nomatch hr
    · cases hgoes with
      | redirected _ hy => exact ih _ _ _ hy

/-- An exchange has a result, if only an error in sending. -/
theorem stopsFor_exchange (call : Call) : (exchange call).StopsFor fun _ => False := by
  intro log stop h
  obtain ⟨-, hr⟩ | hfollow := yields_exchange_cases h
  · nomatch hr
  · exact stopsFor_follow _ _ _ _ hfollow

/-! ## The events -/

theorem emits_follow {P : Event → Prop} {Q : Call → Prop}
    (hsend : ∀ call answer, Q call → P (.exchanged call.request answer))
    (hredirect : ∀ call status target, Q call → Q (call.redirected status target))
    (left : Nat) (h : Q call) : (follow left call).Emits P := by
  induction left using Nat.strongRecOn generalizing call with
  | _ left ih =>
    intro log r hy
    obtain ⟨rfl, -⟩ | ⟨-, answer, rest, rfl, hgoes⟩ := yields_follow_cases hy
    · exact List.forall_mem_nil _
    · refine List.forall_mem_cons.2 ⟨hsend call answer h, ?_⟩
      cases hgoes with
      | refused | timedOut | dropped | replied | stopped => exact List.forall_mem_nil _
      | redirected _ hy => exact ih _ (Nat.lt_succ_self _) (hredirect _ _ _ h) _ _ hy

theorem emits_exchange {P : Event → Prop} {Q : Call → Prop}
    (hsend : ∀ call answer, Q call → P (.exchanged call.request answer))
    (hredirect : ∀ call status target, Q call → Q (call.redirected status target))
    (h : Q call.withUserMoved) : (exchange call).Emits P := by
  intro log r hy
  obtain ⟨rfl, -⟩ | hfollow := yields_exchange_cases hy
  · exact List.forall_mem_nil _
  · exact emits_follow hsend hredirect _ h _ _ hfollow

theorem isExchange_of_yields (h : (exchange call).Yields log r) : ∀ e ∈ log, e.isExchange :=
  emits_exchange (Q := fun _ => True) (fun _ _ _ => rfl) (fun _ _ _ _ => trivial) trivial log r h

/-! ## The first request -/

theorem withUserMoved_cases (call : Call) : call.withUserMoved = call ∨
    ∃ authorization, call.withUserMoved =
      { call with url := call.url.withoutUser, authorization := authorization } := by
  rw [Call.withUserMoved]
  cases user? call.url with
  | none => exact .inl rfl
  | some user => exact .inr ⟨_, rfl⟩

theorem withUserMoved_url (call : Call) :
    call.withUserMoved.url = call.url ∨ call.withUserMoved.url = call.url.withoutUser := by
  obtain h | ⟨_, h⟩ := withUserMoved_cases call
  · exact .inl (by rw [h])
  · exact .inr (by rw [h])

theorem withUserMoved_method (call : Call) : call.withUserMoved.method = call.method := by
  obtain h | ⟨_, h⟩ := withUserMoved_cases call <;> rw [h]

theorem withUserMoved_body (call : Call) : call.withUserMoved.body = call.body := by
  obtain h | ⟨_, h⟩ := withUserMoved_cases call <;> rw [h]

theorem withUserMoved_request_url (call : Call) :
    call.withUserMoved.request.url = call.url.withoutUser.withoutFragment := by
  rw [Call.request]
  obtain h | h := withUserMoved_url call
  · rw [h]
  · rw [h]
    rfl

/-- **The first request of an exchange** is that of its call, which goes to a URL of the web;
without a request there is an error. -/
theorem nil_or_first_of_yields (h : (exchange call).Yields log r) :
    log = [] ∧ (∃ e, r = .ok (.error e)) ∨
      call.url.isHttp ∧
        ∃ answer rest, log = .exchanged call.withUserMoved.request answer :: rest := by
  obtain ⟨hlog, hr⟩ | hfollow := yields_exchange_cases h
  · exact .inl ⟨hlog, _, hr⟩
  · obtain ⟨hlog, hr⟩ | ⟨hhttp, answer, rest, hlog, -⟩ := yields_follow_cases hfollow
    · exact .inl ⟨hlog, _, hr⟩
    · refine .inr ⟨?_, answer, rest, hlog⟩
      obtain hu | hu := withUserMoved_url call
      · rwa [hu] at hhttp
      · rwa [hu] at hhttp

theorem first_of_yields {request : Request} {answer : Answer} {rest : Trace}
    (h : (exchange call).Yields (.exchanged request answer :: rest) r) :
    request = call.withUserMoved.request ∧ call.url.isHttp := by
  obtain ⟨hnil, -⟩ | ⟨hhttp, answer', rest', hlog⟩ := nil_or_first_of_yields h
  · nomatch hnil
  · cases hlog
    exact ⟨rfl, hhttp⟩

theorem exists_first_of_yields_ok {response : Response}
    (h : (exchange call).Yields log (.ok (.ok response))) :
    ∃ request answer rest, log = .exchanged request answer :: rest := by
  obtain ⟨-, e, hr⟩ | ⟨-, answer, rest, hlog⟩ := nil_or_first_of_yields h
  · nomatch hr
  · exact ⟨_, answer, rest, hlog⟩

/-! ## The response -/

theorem isRedirect_of_target? {response : Response} {target : Url}
    (h : response.target? = some target) : isRedirect response.reply.status := by
  rw [Response.target?] at h
  split at h
  · assumption
  · nomatch h

/-- What the last answer of an exchange makes of it. A redirect is the last answer if it is one too
many, or leads to a URL that cannot be put on the wire. -/
inductive Concludes : Answer → Except SendError Response → Prop
  | refused (url : Url) : Concludes .refused (.error ⟨.refused, url⟩)
  | timedOut (url : Url) : Concludes .timedOut (.error ⟨.timedOut, url⟩)
  | dropped (url : Url) : Concludes .dropped (.error ⟨.dropped, url⟩)
  | replied (reply : Reply) (url : Url) : Concludes (.reply reply) (.ok ⟨reply, url⟩)
  | lost {reply : Reply} (h : isRedirect reply.status) (e : SendError) :
    Concludes (.reply reply) (.error e)

/-- The requests of an exchange from its first one on, and its result: each further request follows
a redirect. -/
inductive Hops : Request → Trace → Except SendError Response → Prop
  | last {request : Request} {answer : Answer} {sent : Except SendError Response}
      (h : Concludes answer sent) : Hops request [.exchanged request answer] sent
  | next {request request' : Request} {reply : Reply} {rest : Trace}
      {sent : Except SendError Response} (h : isRedirect reply.status)
      (hops : Hops request' rest sent) :
    Hops request (.exchanged request (.reply reply) :: rest) sent

variable {sent : Except SendError Response}

theorem hops_of_yields_follow (h : (follow left call).Yields log (.ok sent)) :
    log = [] ∧ (∃ e, sent = .error e) ∨ Hops call.request log sent := by
  induction left using Nat.strongRecOn generalizing call log with
  | _ left ih =>
    obtain ⟨hlog, hr⟩ | ⟨-, answer, rest, rfl, hgoes⟩ := yields_follow_cases h
    · exact .inl ⟨hlog, _, Except.ok.inj hr⟩
    · right
      cases hgoes with
      | refused => exact .last (.refused _)
      | timedOut => exact .last (.timedOut _)
      | dropped => exact .last (.dropped _)
      | replied => exact .last (.replied _ _)
      | stopped htarget => exact .last (.lost (isRedirect_of_target? htarget) _)
      | redirected htarget hy =>
        have hredirect := isRedirect_of_target? htarget
        obtain ⟨rfl, e, rfl⟩ | hops := ih _ (Nat.lt_succ_self _) hy
        · exact .last (.lost hredirect e)
        · exact .next hredirect hops

/-- **An exchange is one request**, but for redirects: nothing is sent and there is an error, or the
first request is that of the call, and every further one follows a redirect. -/
theorem hops_of_yields (h : (exchange call).Yields log (.ok sent)) :
    log = [] ∧ (∃ e, sent = .error e) ∨ Hops call.withUserMoved.request log sent := by
  obtain ⟨hlog, hr⟩ | hfollow := yields_exchange_cases h
  · exact .inl ⟨hlog, _, Except.ok.inj hr⟩
  · exact hops_of_yields_follow hfollow

theorem Hops.exists_reply {request : Request} {response : Response}
    (h : Hops request log (.ok response)) :
    ∃ request', .exchanged request' (.reply response.reply) ∈ log := by
  generalize hsent : Except.ok response = sent at h
  induction h with
  | last h =>
    subst hsent
    cases h
    exact ⟨_, List.mem_cons_self⟩
  | next _ _ ih =>
    obtain ⟨request', hmem⟩ := ih hsent
    exact ⟨request', List.mem_cons_of_mem _ hmem⟩

theorem exists_reply_of_yields_ok {response : Response}
    (h : (exchange call).Yields log (.ok (.ok response))) :
    ∃ request, .exchanged request (.reply response.reply) ∈ log := by
  obtain ⟨-, e, he⟩ | hops := hops_of_yields h
  · nomatch he
  · exact hops.exists_reply

theorem yields_exchange_of_reply {reply : Reply}
    (hsend : call.withUserMoved.authorization.all isSendable)
    (haddr : isAddressable call.withUserMoved.url) (hstays : isRedirect reply.status = false) :
    (exchange call).Yields [.exchanged call.withUserMoved.request (.reply reply)]
      (.ok (.ok ⟨reply, call.withUserMoved.url⟩)) := by
  have htarget : (Response.mk reply call.withUserMoved.url).target? = none :=
    if_neg (by simp [hstays])
  rw [exchange, if_pos hsend, follow, if_neg (by simp [haddr])]
  refine Session.yields_send_iff.2 ⟨.reply reply, [], rfl, ?_⟩
  simp only [htarget]
  exact .done _

/-- A reply that does not lead elsewhere is the response. -/
theorem reply_eq_of_yields_ok {request : Request} {reply : Reply} {rest : Trace}
    {response : Response} (hstays : isRedirect reply.status = false)
    (h : (exchange call).Yields (.exchanged request (.reply reply) :: rest) (.ok (.ok response))) :
    response.reply = reply := by
  obtain ⟨hnil, -⟩ | hops := hops_of_yields h
  · nomatch hnil
  · cases hops with
    | last h =>
      cases h
      rfl
    | next h => rw [hstays] at h; nomatch h

end Http

end TagCatalog
