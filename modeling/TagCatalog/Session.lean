import TagCatalog.Auth.Credentials
import TagCatalog.Error

/-!
# Sessions

A **session** is what a client does, step by step: it sends requests, asks a credential store, and
ends with a result or an error. It is a finite tree that branches on every answer; who gives the
answers is decided when it is run.

* `Session`, its monad, `Session.raise`, `Session.ofExcept`;
* `Event`, `Trace`: what happened in a run, oldest first;
* `Server`, `Store`, `World`: who answers; an answer may depend on all that happened before;
* `Session.run`: one session alone;
* `Session.step`, `Session.interleave`: several sessions in one world, their steps in the order of
  a schedule.
-/

namespace TagCatalog

/-- Why a session ends without a result. -/
inductive Stop where
  | error (e : CatalogError)
  /-- The pages that a listing may take are used up. -/
  | pageLimit
  deriving DecidableEq, Repr

/-- What a client does, up to a result of type `α`. -/
inductive Session (α : Type) where
  | done (result : α)
  | fail (reason : Stop)
  /-- Sends a request and waits for its answer. -/
  | send (request : Http.Request) (next : Http.Answer → Session α)
  /-- Asks the store for the credentials to present to a URL. -/
  | askBasic (url : Url) (next : Option Credentials → Session α)
  /-- Asks the store for the refresh token kept for a realm and service. -/
  | askRefresh (realm : Url) (service : String) (next : Option String → Session α)
  /-- Offers the store a refresh token for a realm and service. -/
  | keepRefresh (realm : Url) (service token : String) (next : Session α)

namespace Session

/-- Continues a session with what its result decides. -/
def bind {α β : Type} : Session α → (α → Session β) → Session β
  | done result, f => f result
  | fail reason, _ => fail reason
  | send request next, f => send request fun a => (next a).bind f
  | askBasic url next, f => askBasic url fun c => (next c).bind f
  | askRefresh realm service next, f => askRefresh realm service fun t => (next t).bind f
  | keepRefresh realm service token next, f => keepRefresh realm service token (next.bind f)

instance : Monad Session where
  pure := done
  bind := bind

/-- Ends a session with an error. -/
def raise {α : Type} (e : CatalogError) : Session α := fail (.error e)

/-- A result or an error that is known already. -/
def ofExcept {α : Type} : Except CatalogError α → Session α
  | .ok result => done result
  | .error e => raise e

@[simp] theorem bind_done {α β : Type} (a : α) (f : α → Session β) : (done a >>= f) = f a := rfl

@[simp] theorem bind_fail {α β : Type} (r : Stop) (f : α → Session β) :
    (fail r >>= f) = fail r := rfl

@[simp] theorem bind_send {α β : Type} (r : Http.Request) (k : Http.Answer → Session α)
    (f : α → Session β) : (send r k >>= f) = send r fun a => k a >>= f := rfl

@[simp] theorem bind_askBasic {α β : Type} (u : Url) (k : Option Credentials → Session α)
    (f : α → Session β) : (askBasic u k >>= f) = askBasic u fun c => k c >>= f := rfl

@[simp] theorem bind_askRefresh {α β : Type} (u : Url) (s : String) (k : Option String → Session α)
    (f : α → Session β) : (askRefresh u s k >>= f) = askRefresh u s fun t => k t >>= f := rfl

@[simp] theorem bind_keepRefresh {α β : Type} (u : Url) (s t : String) (k : Session α)
    (f : α → Session β) : (keepRefresh u s t k >>= f) = keepRefresh u s t (k >>= f) := rfl

end Session

/-! ## Worlds -/

/-- One thing that happened. -/
inductive Event where
  | exchanged (request : Http.Request) (answer : Http.Answer)
  | askedBasic (url : Url) (answer : Option Credentials)
  | askedRefresh (realm : Url) (service : String) (answer : Option String)
  | keptRefresh (realm : Url) (service token : String)
  deriving DecidableEq, Repr

/-- What happened, oldest first. -/
abbrev Trace := List Event

namespace Event

/-- The request of an exchange. -/
def request? : Event → Option Http.Request
  | exchanged request _ => some request
  | _ => none

end Event

/-- The requests of a trace, oldest first. -/
def Trace.requests (t : Trace) : List Http.Request := t.filterMap Event.request?

/-- A server answers a request in the light of the requests before it. -/
abbrev Server := List Http.Request → Http.Request → Http.Answer

/-- A credential store answers in the light of what happened before. -/
structure Store where
  basic : Trace → Url → Option Credentials
  refresh : Trace → Url → String → Option String

/-- Who answers the steps of a session. -/
structure World where
  server : Server
  store : Store

namespace Session

variable {α : Type}

/-- Runs a session after what happened before; yields the result and all that happened. -/
def run (w : World) : Session α → Trace → Except Stop α × Trace
  | done result, t => (.ok result, t)
  | fail reason, t => (.error reason, t)
  | send request next, t =>
    let answer := w.server t.requests request
    (next answer).run w (t ++ [.exchanged request answer])
  | askBasic url next, t =>
    let answer := w.store.basic t url
    (next answer).run w (t ++ [.askedBasic url answer])
  | askRefresh realm service next, t =>
    let answer := w.store.refresh t realm service
    (next answer).run w (t ++ [.askedRefresh realm service answer])
  | keepRefresh realm service token next, t =>
    next.run w (t ++ [.keptRefresh realm service token])

/-- The first step of a session; an ended session stays as it is. -/
def step (w : World) : Session α → Trace → Session α × Trace
  | done result, t => (done result, t)
  | fail reason, t => (fail reason, t)
  | send request next, t =>
    let answer := w.server t.requests request
    (next answer, t ++ [.exchanged request answer])
  | askBasic url next, t =>
    let answer := w.store.basic t url
    (next answer, t ++ [.askedBasic url answer])
  | askRefresh realm service next, t =>
    let answer := w.store.refresh t realm service
    (next answer, t ++ [.askedRefresh realm service answer])
  | keepRefresh realm service token next, t =>
    (next, t ++ [.keptRefresh realm service token])

/-- Runs sessions to their ends, one after the other. -/
def runEach (w : World) : List (Session α) → Trace → List (Except Stop α) × Trace
  | [], t => ([], t)
  | s :: rest, t =>
    let (result, t) := s.run w t
    let (results, t) := runEach w rest t
    (result :: results, t)

/-- Runs sessions together: each number of the schedule lets the session at that place take a
step; what is unfinished after the schedule runs to its end in turn. -/
def interleave (w : World) : (schedule : List Nat) → List (Session α) → Trace →
    List (Except Stop α) × Trace
  | [], sessions, t => runEach w sessions t
  | i :: schedule, sessions, t =>
    match sessions[i]? with
    | none => interleave w schedule sessions t
    | some s =>
      let (s, t) := s.step w t
      interleave w schedule (sessions.set i s) t

end Session

end TagCatalog
