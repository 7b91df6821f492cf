import TagCatalog.Proofs.Session.Log

/-!
# What happens in a session

Some events never happen in a session, whatever the answers. This is seen step by step: an event
that a session takes is as it should be, and so are those of what is left.

* `Session.Emits`: all events of a session are of one kind;
* `Session.Waits.emits`: the kind of a session's events, from one step;
* `Session.Emits.bind`: the events of a sequence.
-/

namespace TagCatalog.Session

variable {α β : Type} {P : Event → Prop}

/-- Whatever the answers, every event of the session is in `P`. -/
def Emits (P : Event → Prop) (s : Session α) : Prop :=
  ∀ log r, Yields s log r → ∀ e ∈ log, P e

theorem emits_done (a : α) : Emits P (.done a) := by
  intro log r h
  rw [(yields_done_iff.1 h).1]
  exact List.forall_mem_nil P

theorem emits_fail (stop : Stop) : Emits P (.fail stop : Session α) := by
  intro log r h
  rw [(yields_fail_iff.1 h).1]
  exact List.forall_mem_nil P

theorem emits_ofExcept (x : Except CatalogError α) : Emits P (ofExcept x) := by
  cases x with
  | error e => exact emits_fail _
  | ok a => exact emits_done a

theorem Waits.emits {s : Session α} (hs : Waits s)
    (h : ∀ e s', Takes s e s' → P e ∧ Emits P s') : Emits P s := by
  intro log r hy
  obtain ⟨e, s', rest, rfl, take, hrest⟩ := hy.of_waits hs
  obtain ⟨he, hs'⟩ := h e s' take
  exact List.forall_mem_cons.2 ⟨he, hs' rest r hrest⟩

theorem emits_askBasic {url : Url} {next : Option Credentials → Session α}
    (h : ∀ answer, P (.askedBasic url answer) ∧ Emits P (next answer)) :
    Emits P (.askBasic url next) :=
  Waits.emits ⟨_, _, .askBasic url next none⟩ fun _ _ take => by cases take; exact h _

theorem emits_askRefresh {realm : Url} {service : String} {next : Option String → Session α}
    (h : ∀ answer, P (.askedRefresh realm service answer) ∧ Emits P (next answer)) :
    Emits P (.askRefresh realm service next) :=
  Waits.emits ⟨_, _, .askRefresh realm service next none⟩ fun _ _ take => by cases take; exact h _

theorem Emits.bind {s : Session α} {f : α → Session β} (h : Emits P s)
    (hf : ∀ a, Emits P (f a)) : Emits P (s >>= f) := by
  intro log r hy
  obtain ⟨a, log₁, log₂, rfl, h₁, h₂⟩ | ⟨stop, -, h₁⟩ := hy.of_bind
  · exact List.forall_mem_append.2 ⟨h _ _ h₁, hf a _ _ h₂⟩
  · exact h _ _ h₁

end TagCatalog.Session
