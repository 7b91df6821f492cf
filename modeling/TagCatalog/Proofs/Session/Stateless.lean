import TagCatalog.Proofs.Session.Interleaving

/-!
# Worlds without memory

A server may answer a request whatever was asked before it. If a whole world does, each session has
one run in it, and sessions that run together do what each of them does alone.

* `Server.IsStateless`, `World.IsStateless`: answers that do not hang on what happened before;
* `World.IsStateless.answers_iff`: a log is answered event by event;
* **`World.IsStateless.interleave_eq`**: sessions that run together, whatever the schedule.
-/

namespace TagCatalog

/-- The server answers a request alike, whatever was asked before. -/
def Server.IsStateless (server : Server) : Prop :=
  ∀ before before' request, server before request = server before' request

/-- The world gives an answer at any time if it gives it once. -/
def World.IsStateless (w : World) : Prop := ∀ t t' e, w.Gives t e → w.Gives t' e

namespace World.IsStateless

variable {α : Type} {w : World}

theorem answers_iff (hw : w.IsStateless) (t : Trace) {log : Trace} :
    w.Answers t log ↔ ∀ e ∈ log, w.Gives [] e := by
  induction log generalizing t with
  | nil => simp [World.Answers]
  | cons e log ih =>
    rw [World.Answers, ih, List.forall_mem_cons]
    exact and_congr_left fun _ => ⟨hw t [] e, hw [] t e⟩

/-- **Sessions that run together** end as they do alone, and what happens is a merge of what
happens to each of them alone. -/
theorem interleave_eq (hw : w.IsStateless) (schedule : List Nat) (sessions : List (Session α))
    (t : Trace) : ∃ events,
      Session.interleave w schedule sessions t =
        (sessions.map fun s => (s.run w []).1, t ++ events) ∧
      Merges (sessions.map fun s => (s.run w []).2) events := by
  rcases hrun : Session.interleave w schedule sessions t with ⟨results, t'⟩
  obtain ⟨logs, events, rfl, ha, hmerges, hy⟩ := Session.interleave_spec hrun
  have hlogs : ∀ log ∈ logs, w.Answers [] log := by
    intro log hlog
    rw [hw.answers_iff] at ha ⊢
    intro e he
    exact ha e (hmerges.perm_flatten.mem_iff.2 (List.mem_flatten.2 ⟨log, hlog, he⟩))
  obtain ⟨rfl, rfl⟩ := hy.eq_runs hlogs
  exact ⟨events, rfl, hmerges⟩

end World.IsStateless

end TagCatalog
