import TagCatalog.Session

/-!
# Logs of sessions

A session can be read without a world: it takes one event after another, whatever the answers in
them, until it ends. Its **log** is the list of these events. A run in a world is a log whose
answers the world gives, so what holds of every log holds of every run, and also of a session whose
steps stand among the steps of others.

* `Session.Takes`, `Session.Yields`: one event, and a whole log with the result at its end;
* `Session.Yields.append_inj`: no log goes on as another one;
* `World.Gives`, `World.Answers`: the answers of an event, and of a log, are those of a world;
* **`Session.run_eq_iff`**, `Session.yields_of_run`: the runs in a world are the logs that the world
  answers;
* `Session.yields_bind_iff`: the logs of two sessions in sequence;
* `Session.StopsFor`: the reasons for which a session may end without a result.
-/

namespace TagCatalog

theorem eq_ok_of_toOption {ε α : Type} {x : Except ε α} {a : α} (h : x.toOption = some a) :
    x = .ok a := by
  cases x with
  | error e => nomatch h
  | ok b => exact congrArg Except.ok (Option.some.inj h)

theorem mapError_eq_ok_iff {ε ε' α : Type} {f : ε → ε'} {x : Except ε α} {a : α} :
    x.mapError f = .ok a ↔ x = .ok a := by
  cases x with
  | error e => exact iff_of_false nofun nofun
  | ok b => exact ⟨fun h => by cases h; rfl, fun h => by cases h; rfl⟩

namespace Session

variable {α β : Type}

/-- A session goes on as another one after an event. -/
inductive Takes : Session α → Event → Session α → Prop
  | send (request : Http.Request) (next : Http.Answer → Session α) (answer : Http.Answer) :
      Takes (.send request next) (.exchanged request answer) (next answer)
  | askBasic (url : Url) (next : Option Credentials → Session α) (answer : Option Credentials) :
      Takes (.askBasic url next) (.askedBasic url answer) (next answer)
  | askRefresh (realm : Url) (service : String) (next : Option String → Session α)
      (answer : Option String) :
      Takes (.askRefresh realm service next) (.askedRefresh realm service answer) (next answer)
  | keepRefresh (realm : Url) (service token : String) (next : Session α) :
      Takes (.keepRefresh realm service token next) (.keptRefresh realm service token) next

/-- A session ends with `r`, and the log is all that happened to it. -/
inductive Yields : Session α → Trace → Except Stop α → Prop
  | done (a : α) : Yields (.done a) [] (.ok a)
  | fail (stop : Stop) : Yields (.fail stop) [] (.error stop)
  | step {s s' : Session α} {e : Event} {log : Trace} {r : Except Stop α} (take : Takes s e s')
      (rest : Yields s' log r) : Yields s (e :: log) r

/-- A session that has not ended takes some event. -/
def Waits (s : Session α) : Prop := ∃ e s', Takes s e s'

/-- Induction along the events that a session may take. -/
@[elab_as_elim]
theorem induction_takes {motive : Session α → Prop} (done : ∀ a, motive (.done a))
    (fail : ∀ stop, motive (.fail stop))
    (step : ∀ s, Waits s → (∀ e s', Takes s e s' → motive s') → motive s) (s : Session α) :
    motive s := by
  induction s with
  | done a => exact done a
  | fail stop => exact fail stop
  | send request next ih =>
    exact step _ ⟨_, _, .send request next .refused⟩ fun e s' h => by cases h; exact ih _
  | askBasic url next ih =>
    exact step _ ⟨_, _, .askBasic url next none⟩ fun e s' h => by cases h; exact ih _
  | askRefresh realm service next ih =>
    exact step _ ⟨_, _, .askRefresh realm service next none⟩ fun e s' h => by cases h; exact ih _
  | keepRefresh realm service token next ih =>
    exact step _ ⟨_, _, .keepRefresh realm service token next⟩ fun e s' h => by cases h; exact ih

theorem not_waits_done (a : α) : ¬ Waits (.done a : Session α) := fun ⟨_, _, h⟩ => nomatch h

theorem not_waits_fail (stop : Stop) : ¬ Waits (.fail stop : Session α) :=
  fun ⟨_, _, h⟩ => nomatch h

theorem yields_done_iff {a : α} {log : Trace} {r : Except Stop α} :
    Yields (.done a) log r ↔ log = [] ∧ r = .ok a := by
  constructor
  · intro h
    cases h with
    | done => exact ⟨rfl, rfl⟩
    | step take => nomatch take
  · rintro ⟨rfl, rfl⟩
    exact .done a

theorem yields_fail_iff {stop : Stop} {log : Trace} {r : Except Stop α} :
    Yields (.fail stop) log r ↔ log = [] ∧ r = .error stop := by
  constructor
  · intro h
    cases h with
    | fail => exact ⟨rfl, rfl⟩
    | step take => nomatch take
  · rintro ⟨rfl, rfl⟩
    exact .fail stop

theorem Yields.of_waits {s : Session α} {log : Trace} {r : Except Stop α} (h : Yields s log r)
    (hs : Waits s) : ∃ e s' rest, log = e :: rest ∧ Takes s e s' ∧ Yields s' rest r := by
  cases h with
  | done a => exact absurd hs (not_waits_done a)
  | fail stop => exact absurd hs (not_waits_fail stop)
  | step take rest => exact ⟨_, _, _, rfl, take, rest⟩

theorem yields_send_iff {request : Http.Request} {next : Http.Answer → Session α} {log : Trace}
    {r : Except Stop α} : Yields (.send request next) log r ↔
      ∃ answer rest, log = .exchanged request answer :: rest ∧ Yields (next answer) rest r := by
  constructor
  · intro h
    obtain ⟨_, _, rest, rfl, take, hrest⟩ := h.of_waits ⟨_, _, .send request next .refused⟩
    cases take with
    | send _ _ answer => exact ⟨answer, rest, rfl, hrest⟩
  · rintro ⟨answer, rest, rfl, hrest⟩
    exact .step (.send request next answer) hrest

theorem yields_askBasic_iff {url : Url} {next : Option Credentials → Session α} {log : Trace}
    {r : Except Stop α} : Yields (.askBasic url next) log r ↔
      ∃ answer rest, log = .askedBasic url answer :: rest ∧ Yields (next answer) rest r := by
  constructor
  · intro h
    obtain ⟨_, _, rest, rfl, take, hrest⟩ := h.of_waits ⟨_, _, .askBasic url next none⟩
    cases take with
    | askBasic _ _ answer => exact ⟨answer, rest, rfl, hrest⟩
  · rintro ⟨answer, rest, rfl, hrest⟩
    exact .step (.askBasic url next answer) hrest

theorem yields_askRefresh_iff {realm : Url} {service : String} {next : Option String → Session α}
    {log : Trace} {r : Except Stop α} : Yields (.askRefresh realm service next) log r ↔
      ∃ answer rest, log = .askedRefresh realm service answer :: rest ∧
        Yields (next answer) rest r := by
  constructor
  · intro h
    obtain ⟨_, _, rest, rfl, take, hrest⟩ := h.of_waits ⟨_, _, .askRefresh realm service next none⟩
    cases take with
    | askRefresh _ _ _ answer => exact ⟨answer, rest, rfl, hrest⟩
  · rintro ⟨answer, rest, rfl, hrest⟩
    exact .step (.askRefresh realm service next answer) hrest

theorem yields_keepRefresh_iff {realm : Url} {service token : String} {next : Session α}
    {log : Trace} {r : Except Stop α} : Yields (.keepRefresh realm service token next) log r ↔
      ∃ rest, log = .keptRefresh realm service token :: rest ∧ Yields next rest r := by
  constructor
  · intro h
    obtain ⟨_, _, rest, rfl, take, hrest⟩ :=
      h.of_waits ⟨_, _, .keepRefresh realm service token next⟩
    cases take
    exact ⟨rest, rfl, hrest⟩
  · rintro ⟨rest, rfl, hrest⟩
    exact .step (.keepRefresh realm service token next) hrest

theorem Takes.unique {s s₁ s₂ : Session α} {e : Event} (h₁ : Takes s e s₁) (h₂ : Takes s e s₂) :
    s₁ = s₂ := by
  cases h₁ <;> cases h₂ <;> rfl

/-- The answers decide when a session ends: none of its logs goes on as another one. -/
theorem Yields.append_inj {s : Session α} {log log' t t' : Trace} {r r' : Except Stop α}
    (h : Yields s log r) (h' : Yields s log' r') (heq : log ++ t = log' ++ t') :
    log = log' ∧ r = r' ∧ t = t' := by
  induction h generalizing log' with
  | done a =>
    obtain ⟨rfl, rfl⟩ := yields_done_iff.1 h'
    exact ⟨rfl, rfl, heq⟩
  | fail stop =>
    obtain ⟨rfl, rfl⟩ := yields_fail_iff.1 h'
    exact ⟨rfl, rfl, heq⟩
  | step take _ ih =>
    obtain ⟨e, s', rest, rfl, take', hrest⟩ := h'.of_waits ⟨_, _, take⟩
    obtain ⟨rfl, htail⟩ := List.cons_eq_cons.1 heq
    cases take.unique take'
    obtain ⟨rfl, rfl, rfl⟩ := ih hrest htail
    exact ⟨rfl, rfl, rfl⟩

/-! ## Sequences -/

theorem pure_bind (a : α) (f : α → Session β) : ((pure a : Session α) >>= f) = f a := rfl

theorem bind_assoc {γ : Type} (s : Session α) (f : α → Session β) (g : β → Session γ) :
    (s >>= f) >>= g = s >>= fun a => f a >>= g := by
  induction s with
  | done | fail => rfl
  | send request next ih => simp [ih]
  | askBasic url next ih => simp [ih]
  | askRefresh realm service next ih => simp [ih]
  | keepRefresh realm service token next ih => simp [ih]

theorem Takes.bind {s s' : Session α} {e : Event} (h : Takes s e s') (f : α → Session β) :
    Takes (s >>= f) e (s' >>= f) := by
  cases h <;> constructor

theorem Waits.takes_bind {s : Session α} (hs : Waits s) {f : α → Session β} {e : Event}
    {u : Session β} (h : Takes (s >>= f) e u) : ∃ s', Takes s e s' ∧ u = (s' >>= f) := by
  obtain ⟨_, _, take⟩ := hs
  cases take <;> cases h <;> exact ⟨_, by constructor, rfl⟩

theorem Yields.bind {s : Session α} {f : α → Session β} {a : α} {log log' : Trace}
    {r : Except Stop β} (h : Yields s log (.ok a)) (hf : Yields (f a) log' r) :
    Yields (s >>= f) (log ++ log') r := by
  generalize hr : (.ok a : Except Stop α) = r' at h
  induction h with
  | done b => cases hr; exact hf
  | fail => cases hr
  | step take _ ih => exact .step (take.bind f) (ih hr)

theorem Yields.bind_error {s : Session α} {f : α → Session β} {stop : Stop} {log : Trace}
    (h : Yields s log (.error stop)) : Yields (s >>= f) log (.error stop) := by
  generalize hr : (.error stop : Except Stop α) = r at h
  induction h with
  | done => cases hr
  | fail => cases hr; exact .fail stop
  | step take _ ih => exact .step (take.bind f) (ih hr)

theorem Yields.of_bind {s : Session α} {f : α → Session β} {log : Trace} {r : Except Stop β}
    (h : Yields (s >>= f) log r) :
    (∃ a log₁ log₂, log = log₁ ++ log₂ ∧ Yields s log₁ (.ok a) ∧ Yields (f a) log₂ r) ∨
      ∃ stop, r = .error stop ∧ Yields s log (.error stop) := by
  induction s using induction_takes generalizing log with
  | done a => exact .inl ⟨a, [], log, rfl, .done a, h⟩
  | fail stop => exact .inr ⟨stop, (yields_fail_iff.1 h).2, (yields_fail_iff.1 h).1 ▸ .fail stop⟩
  | step s hs ih =>
    obtain ⟨_, _, take⟩ := hs
    obtain ⟨e, u, rest, rfl, hu, hrest⟩ := h.of_waits ⟨_, _, take.bind f⟩
    obtain ⟨s', hs', rfl⟩ := Waits.takes_bind ⟨_, _, take⟩ hu
    rcases ih e s' hs' hrest with ⟨a, log₁, log₂, rfl, h₁, h₂⟩ | ⟨stop, hr, h₁⟩
    · exact .inl ⟨a, e :: log₁, log₂, rfl, .step hs' h₁, h₂⟩
    · exact .inr ⟨stop, hr, .step hs' h₁⟩

theorem yields_bind_iff {s : Session α} {f : α → Session β} {log : Trace} {r : Except Stop β} :
    Yields (s >>= f) log r ↔
      (∃ a log₁ log₂, log = log₁ ++ log₂ ∧ Yields s log₁ (.ok a) ∧ Yields (f a) log₂ r) ∨
        ∃ stop, r = .error stop ∧ Yields s log (.error stop) := by
  constructor
  · exact Yields.of_bind
  · rintro (⟨a, log₁, log₂, rfl, h₁, h₂⟩ | ⟨stop, rfl, h⟩)
    · exact h₁.bind h₂
    · exact h.bind_error

theorem yields_bind_ok {s : Session α} {f : α → Session β} {log : Trace} {b : β} :
    Yields (s >>= f) log (.ok b) ↔
      ∃ a log₁ log₂, log = log₁ ++ log₂ ∧ Yields s log₁ (.ok a) ∧ Yields (f a) log₂ (.ok b) := by
  rw [yields_bind_iff]
  exact or_iff_left fun ⟨_, hr, _⟩ => nomatch hr

theorem yields_bind_pure_iff {s : Session α} {g : α → β} {log : Trace} {r : Except Stop β} :
    Yields (s >>= fun a => pure (g a)) log r ↔ ∃ r', Yields s log r' ∧ r = r'.map g := by
  rw [yields_bind_iff]
  constructor
  · rintro (⟨a, log₁, log₂, rfl, h₁, h₂⟩ | ⟨stop, rfl, h⟩)
    · obtain ⟨rfl, rfl⟩ := yields_done_iff.1 h₂
      rw [List.append_nil]
      exact ⟨.ok a, h₁, rfl⟩
    · exact ⟨.error stop, h, rfl⟩
  · rintro ⟨r', h, rfl⟩
    cases r' with
    | ok a => exact .inl ⟨a, log, [], (List.append_nil log).symm, h, .done (g a)⟩
    | error stop => exact .inr ⟨stop, rfl, h⟩

theorem yields_ofExcept_iff {x : Except CatalogError α} {log : Trace} {r : Except Stop α} :
    Yields (ofExcept x) log r ↔ log = [] ∧ r = x.mapError .error := by
  cases x with
  | error e => exact yields_fail_iff
  | ok a => exact yields_done_iff

theorem yields_ofExcept_ok_iff {x : Except CatalogError α} {log : Trace} {a : α} :
    Yields (ofExcept x) log (.ok a) ↔ log = [] ∧ x = .ok a := by
  rw [yields_ofExcept_iff, eq_comm (a := Except.ok a), mapError_eq_ok_iff]

/-- Whatever the answers, the session ends with a result or for a reason in `P`. -/
def StopsFor (P : Stop → Prop) (s : Session α) : Prop :=
  ∀ log stop, Yields s log (.error stop) → P stop

variable {P : Stop → Prop}

theorem stopsFor_done (a : α) : StopsFor P (.done a) := fun _ _ h => nomatch (yields_done_iff.1 h).2

theorem stopsFor_fail {stop : Stop} (hP : P stop) : StopsFor P (.fail stop : Session α) := by
  intro log stop' h
  cases (yields_fail_iff.1 h).2
  exact hP

theorem Waits.stopsFor {s : Session α} (hs : Waits s)
    (h : ∀ e s', Takes s e s' → StopsFor P s') : StopsFor P s := by
  intro log stop hy
  obtain ⟨e, s', rest, _, take, hrest⟩ := hy.of_waits hs
  exact h e s' take rest stop hrest

theorem StopsFor.bind {s : Session α} {f : α → Session β} (h : StopsFor P s)
    (hf : ∀ a, StopsFor P (f a)) : StopsFor P (s >>= f) := by
  intro log stop hy
  rcases hy.of_bind with ⟨a, _, log₂, _, _, h₂⟩ | ⟨stop', hr, h₁⟩
  · exact hf a log₂ stop h₂
  · cases hr
    exact h log stop h₁

theorem stopsFor_askBasic {url : Url} {next : Option Credentials → Session α}
    (h : ∀ answer, StopsFor P (next answer)) : StopsFor P (.askBasic url next) :=
  Waits.stopsFor ⟨_, _, .askBasic url next none⟩ fun _ _ take => by cases take; exact h _

end Session

/-! ## Worlds -/

/-- A world gives the answer in an event, after what happened before. -/
def World.Gives (w : World) (t : Trace) : Event → Prop
  | .exchanged request answer => answer = w.server t.requests request
  | .askedBasic url answer => answer = w.store.basic t url
  | .askedRefresh realm service answer => answer = w.store.refresh t realm service
  | .keptRefresh .. => True

/-- A world gives all answers in a log, each after the events before it. -/
def World.Answers (w : World) : Trace → Trace → Prop
  | _, [] => True
  | t, e :: log => w.Gives t e ∧ w.Answers (t ++ [e]) log

theorem World.answers_append {w : World} {t log log' : Trace} :
    w.Answers t (log ++ log') ↔ w.Answers t log ∧ w.Answers (t ++ log) log' := by
  induction log generalizing t with
  | nil => simp [World.Answers]
  | cons e log ih =>
    rw [List.cons_append, World.Answers, World.Answers, ih, and_assoc, List.append_assoc]
    rfl

theorem World.Answers.exists_gives {w : World} {t log : Trace} (h : w.Answers t log) {e : Event}
    (he : e ∈ log) : ∃ before, w.Gives before e := by
  obtain ⟨before, after, rfl⟩ := List.append_of_mem he
  exact ⟨t ++ before, (World.answers_append.1 h).2.1⟩

namespace Session

variable {α : Type} {w : World}

theorem Waits.exists_step {s : Session α} (hs : Waits s) (w : World) (t : Trace) :
    ∃ e s', Takes s e s' ∧ w.Gives t e ∧ s.step w t = (s', t ++ [e]) := by
  obtain ⟨_, _, take⟩ := hs
  cases take with
  | send request next => exact ⟨_, _, .send request next _, rfl, rfl⟩
  | askBasic url next => exact ⟨_, _, .askBasic url next _, rfl, rfl⟩
  | askRefresh realm service next => exact ⟨_, _, .askRefresh realm service next _, rfl, rfl⟩
  | keepRefresh realm service token =>
    exact ⟨_, _, .keepRefresh realm service token _, trivial, rfl⟩

theorem Takes.step_eq {s s' : Session α} {e : Event} {t : Trace} (h : Takes s e s')
    (he : w.Gives t e) : s.step w t = (s', t ++ [e]) := by
  cases h with
  | send | askBasic | askRefresh => cases he; rfl
  | keepRefresh => rfl

theorem run_step (s : Session α) (t : Trace) :
    s.run w t = (s.step w t).1.run w (s.step w t).2 := by
  cases s <;> rfl

/-- **The runs of a session in a world are its logs that the world answers.** -/
theorem run_eq_iff {s : Session α} {t t' : Trace} {r : Except Stop α} :
    s.run w t = (r, t') ↔ ∃ log, s.Yields log r ∧ w.Answers t log ∧ t' = t ++ log := by
  constructor
  · intro h
    induction s using induction_takes generalizing t with
    | done a => cases h; exact ⟨[], .done a, trivial, (List.append_nil _).symm⟩
    | fail stop => cases h; exact ⟨[], .fail stop, trivial, (List.append_nil _).symm⟩
    | step s hs ih =>
      obtain ⟨e, s', take, he, hstep⟩ := hs.exists_step w t
      rw [run_step, hstep] at h
      obtain ⟨log, hy, ha, rfl⟩ := ih e s' take h
      exact ⟨e :: log, .step take hy, ⟨he, ha⟩, List.append_assoc t [e] log⟩
  · rintro ⟨log, hy, ha, rfl⟩
    induction hy generalizing t with
    | done a => rw [List.append_nil]; rfl
    | fail stop => rw [List.append_nil]; rfl
    | @step s s' e log r take _ ih =>
      rw [run_step, take.step_eq ha.1]
      exact (ih ha.2).trans (by rw [List.append_assoc]; rfl)

theorem run_bind {β : Type} {s : Session α} {a : α} {t t' : Trace} (f : α → Session β)
    (h : s.run w t = (.ok a, t')) : (s >>= f).run w t = (f a).run w t' := by
  induction s generalizing t with
  | done b => cases h; rfl
  | fail stop => nomatch h
  | send request next ih => exact ih _ h
  | askBasic url next ih => exact ih _ h
  | askRefresh realm service next ih => exact ih _ h
  | keepRefresh realm service token next ih => exact ih h

theorem run_bind_error {β : Type} {s : Session α} {stop : Stop} {t t' : Trace}
    (f : α → Session β) (h : s.run w t = (.error stop, t')) :
    (s >>= f).run w t = (.error stop, t') := by
  induction s generalizing t with
  | done b => nomatch h
  | fail stop => cases h; rfl
  | send request next ih => exact ih _ h
  | askBasic url next ih => exact ih _ h
  | askRefresh realm service next ih => exact ih _ h
  | keepRefresh realm service token next ih => exact ih h

theorem exists_log_of_run {s : Session α} {r : Except Stop α} {t t' : Trace}
    (h : s.run w t = (r, t')) : ∃ log, t' = t ++ log := by
  obtain ⟨log, -, -, heq⟩ := run_eq_iff.1 h
  exact ⟨log, heq⟩

theorem run_bind_pure {β : Type} (s : Session α) (g : α → β) (t : Trace) :
    (s >>= fun a => pure (g a)).run w t = ((s.run w t).1.map g, (s.run w t).2) := by
  rcases hrun : s.run w t with ⟨r, t'⟩
  cases r with
  | ok a => exact run_bind _ hrun
  | error stop => exact run_bind_error _ hrun

theorem yields_of_run {s : Session α} {t log : Trace} {r : Except Stop α}
    (h : s.run w t = (r, t ++ log)) : s.Yields log r := by
  obtain ⟨log', hy, -, heq⟩ := run_eq_iff.1 h
  rwa [List.append_cancel_left heq]

theorem exists_run_of_toBool {s : Session α} (h : (s.run w []).1.toBool) :
    ∃ a log, s.run w [] = (.ok a, [] ++ log) := by
  rcases hrun : s.run w [] with ⟨r, log⟩
  rw [hrun] at h
  cases r with
  | ok a => exact ⟨a, log, rfl⟩
  | error stop => nomatch h

end Session

end TagCatalog
