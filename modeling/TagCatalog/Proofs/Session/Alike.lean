import Mathlib.Data.List.Forall2
import TagCatalog.Proofs.Session.Log

/-!
# Sessions with different secrets

The secrets of a client are passwords, which a store hands out, and what is made of them, which goes
into `Authorization` headers. Two sessions are alike if they differ in nothing else: whatever the
answers, as long as they differ in passwords only, they take the same steps up to the values of
these headers. In worlds that do not tell them apart, such sessions come to the same end.

* `Http.Request.masked`, `Event.masked`, `Trace.masked`: what is left without the secrets;
* `Session.Alike`, `Session.Alike.bind`: sessions that differ in secrets, up to their results;
* `Server.IgnoresAuthorization`, `World.Alike`: worlds in which secrets make no difference;
* **`Session.Alike.step`**, **`Session.Alike.run`**: one step, and a whole run;
* **`Session.interleave_alike`**: sessions that run together, in the same order.
-/

namespace TagCatalog

/-! ## What is left without the secrets -/

/-- The request without the values of its `Authorization` headers. -/
def Http.Request.masked (r : Http.Request) : Http.Request :=
  { r with authorization := r.authorization.map fun _ => "" }

/-- The event without a password and the values of `Authorization` headers. -/
def Event.masked : Event → Event
  | .exchanged request answer => .exchanged request.masked answer
  | .askedBasic url answer => .askedBasic url (answer.map fun c => { c with password := "" })
  | .askedRefresh realm service answer => .askedRefresh realm service answer
  | .keptRefresh realm service token => .keptRefresh realm service token

/-- A trace without its secrets. -/
def Trace.masked (t : Trace) : Trace := t.map Event.masked

theorem Trace.masked_append (t log : Trace) : masked (t ++ log) = masked t ++ masked log :=
  List.map_append

theorem Trace.requests_masked (t : Trace) :
    requests (masked t) = (requests t).map Http.Request.masked := by
  rw [requests, masked, List.filterMap_map, requests, List.map_filterMap]
  refine List.filterMap_congr fun e _ => ?_
  cases e <;> rfl

theorem Trace.map_masked_requests {t t' : Trace} (h : masked t = masked t') :
    (requests t).map Http.Request.masked = (requests t').map Http.Request.masked := by
  rw [← requests_masked, ← requests_masked, h]

/-! ## Sessions -/

namespace Session

variable {α β : Type} {R : α → β → Prop}

/-- Two sessions take the same steps but for the values of `Authorization` headers, whatever the
answers, where passwords may differ; their results are related by `R`. -/
inductive Alike (R : α → β → Prop) : Session α → Session β → Prop
  | done {a : α} {b : β} (h : R a b) : Alike R (.done a) (.done b)
  | fail (stop : Stop) : Alike R (.fail stop) (.fail stop)
  | send {request request' : Http.Request} {next : Http.Answer → Session α}
      {next' : Http.Answer → Session β} (hrequest : request.masked = request'.masked)
      (h : ∀ answer, Alike R (next answer) (next' answer)) :
    Alike R (.send request next) (.send request' next')
  | askBasic (url : Url) {next : Option Credentials → Session α}
      {next' : Option Credentials → Session β}
      (h : ∀ c c', c.map Credentials.username = c'.map Credentials.username →
        Alike R (next c) (next' c')) :
    Alike R (.askBasic url next) (.askBasic url next')
  | askRefresh (realm : Url) (service : String) {next : Option String → Session α}
      {next' : Option String → Session β} (h : ∀ token, Alike R (next token) (next' token)) :
    Alike R (.askRefresh realm service next) (.askRefresh realm service next')
  | keepRefresh (realm : Url) (service token : String) {next : Session α} {next' : Session β}
      (h : Alike R next next') :
    Alike R (.keepRefresh realm service token next) (.keepRefresh realm service token next')

theorem Alike.bind {γ δ : Type} {S : γ → δ → Prop} {s : Session α} {s' : Session β}
    {f : α → Session γ} {g : β → Session δ} (h : Alike R s s')
    (hfg : ∀ a b, R a b → Alike S (f a) (g b)) : Alike S (s >>= f) (s' >>= g) := by
  induction h with
  | done h => exact hfg _ _ h
  | fail stop => exact .fail stop
  | send hrequest _ ih => exact .send hrequest ih
  | askBasic url _ ih => exact .askBasic url ih
  | askRefresh realm service _ ih => exact .askRefresh realm service ih
  | keepRefresh realm service token _ ih => exact .keepRefresh realm service token ih

theorem alike_ofExcept (x : Except CatalogError α) : Alike Eq (ofExcept x) (ofExcept x) := by
  cases x with
  | error e => exact .fail _
  | ok a => exact .done rfl

end Session

/-! ## Worlds -/

/-- The answers of a server do not hang on the values of `Authorization` headers. -/
def Server.IgnoresAuthorization (server : Server) : Prop :=
  ∀ before before' request request',
    before.map Http.Request.masked = before'.map Http.Request.masked →
    request.masked = request'.masked → server before request = server before' request'

/-- Two worlds give answers that differ in passwords only, after what differs in secrets only. -/
structure World.Alike (w w' : World) : Prop where
  server : ∀ t t' request request', Trace.masked t = Trace.masked t' →
    request.masked = request'.masked →
      w.server (Trace.requests t) request = w'.server (Trace.requests t') request'
  basic : ∀ t t' url, Trace.masked t = Trace.masked t' →
    (w.store.basic t url).map Credentials.username =
      (w'.store.basic t' url).map Credentials.username
  refresh : ∀ t t' realm service, Trace.masked t = Trace.masked t' →
    w.store.refresh t realm service = w'.store.refresh t' realm service

theorem Trace.masked_concat {t t' : Trace} {e e' : Event} (h : masked t = masked t')
    (he : e.masked = e'.masked) : masked (t ++ [e]) = masked (t' ++ [e']) := by
  rw [masked_append, masked_append, h]
  simp [masked, he]

theorem Event.masked_askedBasic {url : Url} {c c' : Option Credentials}
    (h : c.map Credentials.username = c'.map Credentials.username) :
    (askedBasic url c).masked = (askedBasic url c').masked := by
  cases c <;> cases c' <;> simp_all [masked]

namespace Session

variable {α β : Type} {R : α → β → Prop} {w w' : World}

/-- **One step** of alike sessions in alike worlds. -/
theorem Alike.step (hw : w.Alike w') {s : Session α} {s' : Session β} (h : Alike R s s')
    {t t' : Trace} (ht : Trace.masked t = Trace.masked t') :
    Alike R (s.step w t).1 (s'.step w' t').1 ∧
      Trace.masked (s.step w t).2 = Trace.masked (s'.step w' t').2 := by
  cases h with
  | done h => exact ⟨.done h, ht⟩
  | fail stop => exact ⟨.fail stop, ht⟩
  | @send request request' _ _ hrequest h =>
    have hanswer := hw.server t t' request request' ht hrequest
    rw [Session.step, Session.step, hanswer]
    refine ⟨h _, Trace.masked_concat ht ?_⟩
    rw [Event.masked, Event.masked, hrequest]
  | askBasic url h =>
    have hanswer := hw.basic t t' url ht
    exact ⟨h _ _ hanswer, Trace.masked_concat ht (Event.masked_askedBasic hanswer)⟩
  | askRefresh realm service h =>
    have hanswer := hw.refresh t t' realm service ht
    rw [Session.step, Session.step, hanswer]
    exact ⟨h _, Trace.masked_concat ht rfl⟩
  | keepRefresh realm service token h => exact ⟨h, Trace.masked_concat ht rfl⟩

/-- **A run** of alike sessions in alike worlds. -/
theorem Alike.run (hw : w.Alike w') {s s' : Session α} (h : Alike Eq s s') {t t' : Trace}
    (ht : Trace.masked t = Trace.masked t') : (s.run w t).1 = (s'.run w' t').1 ∧
      Trace.masked (s.run w t).2 = Trace.masked (s'.run w' t').2 := by
  induction s using induction_takes generalizing s' t t' with
  | done a =>
    cases h with
    | done h => exact ⟨congrArg Except.ok h, ht⟩
  | fail stop =>
    cases h
    exact ⟨rfl, ht⟩
  | step s hs ih =>
    obtain ⟨e, u, take, -, hstep⟩ := hs.exists_step w t
    have hnext := h.step hw ht
    rw [run_step s, run_step s']
    rw [hstep] at hnext ⊢
    exact ih e u take hnext.1 hnext.2

/-! ## Sessions that run together -/

variable {sessions sessions' : List (Session α)}

theorem rel_getElem? (h : List.Forall₂ (Alike Eq) sessions sessions') (i : Nat) :
    Option.Rel (Alike Eq) sessions[i]? sessions'[i]? := by
  induction h generalizing i with
  | nil => exact .none
  | cons hab _ ih =>
    cases i with
    | zero => exact .some hab
    | succ i => exact ih i

theorem forall₂_set {s s' : Session α} (h : List.Forall₂ (Alike Eq) sessions sessions') (i : Nat)
    (hs : Alike Eq s s') : List.Forall₂ (Alike Eq) (sessions.set i s) (sessions'.set i s') := by
  induction h generalizing i with
  | nil => exact .nil
  | cons hab hrest ih =>
    cases i with
    | zero => exact .cons hs hrest
    | succ i => exact .cons hab (ih i)

theorem runEach_alike (hw : w.Alike w') (h : List.Forall₂ (Alike Eq) sessions sessions')
    {t t' : Trace} (ht : Trace.masked t = Trace.masked t') :
    (runEach w sessions t).1 = (runEach w' sessions' t').1 ∧
      Trace.masked (runEach w sessions t).2 = Trace.masked (runEach w' sessions' t').2 := by
  induction h generalizing t t' with
  | nil => exact ⟨rfl, ht⟩
  | cons hs _ ih =>
    obtain ⟨hresult, ht⟩ := hs.run hw ht
    obtain ⟨hresults, ht⟩ := ih ht
    exact ⟨congrArg₂ List.cons hresult hresults, ht⟩

/-- **Sessions that run together** in the same order, each alike to its counterpart, come to the
same results in alike worlds. -/
theorem interleave_alike (hw : w.Alike w') (schedule : List Nat)
    (h : List.Forall₂ (Alike Eq) sessions sessions') {t t' : Trace}
    (ht : Trace.masked t = Trace.masked t') :
    (interleave w schedule sessions t).1 = (interleave w' schedule sessions' t').1 ∧
      Trace.masked (interleave w schedule sessions t).2 =
        Trace.masked (interleave w' schedule sessions' t').2 := by
  induction schedule generalizing sessions sessions' t t' with
  | nil => exact runEach_alike hw h ht
  | cons i schedule ih =>
    have hi := rel_getElem? h i
    rw [interleave, interleave]
    cases hs : sessions[i]? with
    | none =>
      cases hs' : sessions'[i]? with
      | none => exact ih h ht
      | some s' =>
        rw [hs, hs'] at hi
        nomatch hi
    | some s =>
      cases hs' : sessions'[i]? with
      | none =>
        rw [hs, hs'] at hi
        nomatch hi
      | some s' =>
        rw [hs, hs'] at hi
        cases hi with
        | some hi =>
          obtain ⟨hnext, ht⟩ := hi.step hw ht
          exact ih (forall₂_set h i hnext) ht

end Session

end TagCatalog
