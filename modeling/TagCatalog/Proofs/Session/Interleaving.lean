import TagCatalog.Proofs.Session.Log

/-!
# Interleaved sessions

Sessions that run together in one world share its trace. Each of them still has a log of its own,
which ends as the session did; what happened is a merge of these logs, in an order that the
schedule decides.

* `Merges`: a list is made of several lists, each kept in its order;
* `Merges.perm_flatten`: a merge loses nothing and adds nothing;
* `Session.YieldEach`: sessions with their logs and their results;
* **`Session.interleave_spec`**: the logs of sessions that run together.
-/

namespace TagCatalog

/-- The elements of the lists, those of each list in its order. -/
inductive Merges {α : Type} : List (List α) → List α → Prop
  | nil {lists : List (List α)} (h : ∀ l ∈ lists, l = []) : Merges lists []
  | cons {lists : List (List α)} {i : Nat} {x : α} {l merged : List α}
      (h : lists[i]? = some (x :: l)) (rest : Merges (lists.set i l) merged) :
    Merges lists (x :: merged)

namespace Merges

variable {α : Type} {lists : List (List α)} {merged : List α}

theorem cons_nil (h : Merges lists merged) : Merges ([] :: lists) merged := by
  induction h with
  | nil h => exact .nil fun l hl => (List.mem_cons.1 hl).elim id (h l)
  | @cons lists i _ _ _ h _ ih => exact .cons (i := i + 1) h ih

theorem append (l : List α) (h : Merges lists merged) : Merges (l :: lists) (l ++ merged) := by
  induction l with
  | nil => exact h.cons_nil
  | cons x l ih => exact .cons (i := 0) rfl ih

theorem perm_cons_set {i : Nat} {x : α} {l : List α} (h : lists[i]? = some (x :: l)) :
    (x :: (lists.set i l).flatten).Perm lists.flatten := by
  induction lists generalizing i with
  | nil => simp at h
  | cons l₀ lists ih =>
    cases i with
    | zero =>
      simp only [List.getElem?_cons_zero, Option.some.injEq] at h
      simp [h]
    | succ i =>
      simp only [List.getElem?_cons_succ] at h
      rw [List.set_cons_succ, List.flatten_cons, List.flatten_cons]
      exact List.perm_middle.symm.trans ((ih h).append_left l₀)

theorem eq_of_singleton {l : List α} (h : Merges [l] merged) : merged = l := by
  generalize hlists : [l] = lists at h
  induction h generalizing l with
  | nil h =>
    subst hlists
    exact (h l List.mem_cons_self).symm
  | @cons _ i x rest _ h _ ih =>
    subst hlists
    cases i with
    | zero =>
      simp only [List.getElem?_cons_zero, Option.some.injEq] at h
      rw [h, ih rfl]
    | succ i => simp at h

theorem perm_flatten (h : Merges lists merged) : merged.Perm lists.flatten := by
  induction h with
  | nil h => rw [List.flatten_eq_nil_iff.2 h]
  | cons h _ ih => exact (ih.cons _).trans (perm_cons_set h)

end Merges

namespace Session

variable {α : Type} {w : World}

/-- Sessions with a log and a result of each, in the same order. -/
inductive YieldEach : List (Session α) → List Trace → List (Except Stop α) → Prop
  | nil : YieldEach [] [] []
  | cons {s : Session α} {log : Trace} {r : Except Stop α} {sessions : List (Session α)}
      {logs : List Trace} {results : List (Except Stop α)} (first : s.Yields log r)
      (rest : YieldEach sessions logs results) :
    YieldEach (s :: sessions) (log :: logs) (r :: results)

theorem YieldEach.of_set {sessions : List (Session α)} {i : Nat} {s s' : Session α} {e : Event}
    {logs : List Trace} {results : List (Except Stop α)} (hi : sessions[i]? = some s)
    (take : Takes s e s') (h : YieldEach (sessions.set i s') logs results) :
    ∃ log, logs[i]? = some log ∧ YieldEach sessions (logs.set i (e :: log)) results := by
  induction sessions generalizing i logs results with
  | nil => simp at hi
  | cons s₀ sessions ih =>
    cases i with
    | zero =>
      simp only [List.getElem?_cons_zero, Option.some.injEq] at hi
      subst hi
      cases h with
      | @cons _ log _ _ _ _ first rest => exact ⟨log, rfl, .cons (.step take first) rest⟩
    | succ i =>
      rw [List.set_cons_succ] at h
      cases h with
      | cons first rest =>
        obtain ⟨log, hlog, hrest⟩ := ih hi rest
        exact ⟨log, hlog, .cons first hrest⟩

theorem YieldEach.eq_runs {sessions : List (Session α)} {logs : List Trace}
    {results : List (Except Stop α)} (h : YieldEach sessions logs results)
    (ha : ∀ log ∈ logs, w.Answers [] log) :
    results = sessions.map (fun s => (s.run w []).1) ∧
      logs = sessions.map fun s => (s.run w []).2 := by
  induction h with
  | nil => exact ⟨rfl, rfl⟩
  | @cons s log r sessions logs results first rest ih =>
    rw [List.forall_mem_cons] at ha
    obtain ⟨hresults, hlogs⟩ := ih ha.2
    have hrun : s.run w [] = (r, log) := run_eq_iff.2 ⟨log, first, ha.1, rfl⟩
    simp [hrun, ← hresults, ← hlogs]

theorem step_of_not_waits {s : Session α} (hs : ¬ Waits s) (w : World) (t : Trace) :
    s.step w t = (s, t) := by
  cases s with
  | done | fail => rfl
  | send request next => exact absurd ⟨_, _, .send request next .refused⟩ hs
  | askBasic url next => exact absurd ⟨_, _, .askBasic url next none⟩ hs
  | askRefresh realm service next => exact absurd ⟨_, _, .askRefresh realm service next none⟩ hs
  | keepRefresh realm service token next =>
    exact absurd ⟨_, _, .keepRefresh realm service token next⟩ hs

theorem runEach_spec {sessions : List (Session α)} {t t' : Trace}
    {results : List (Except Stop α)} (h : runEach w sessions t = (results, t')) :
    ∃ logs events, t' = t ++ events ∧ w.Answers t events ∧ Merges logs events ∧
      YieldEach sessions logs results := by
  induction sessions generalizing t t' results with
  | nil =>
    cases h
    exact ⟨[], [], (List.append_nil _).symm, trivial, .nil (by simp), .nil⟩
  | cons s sessions ih =>
    rcases hr : s.run w t with ⟨r, t₁⟩
    rcases hrs : runEach w sessions t₁ with ⟨rs, t₂⟩
    obtain ⟨log, hy, ha, rfl⟩ := run_eq_iff.1 hr
    obtain ⟨logs, events, rfl, ha', hm, he⟩ := ih hrs
    simp only [runEach, hr, hrs, Prod.mk.injEq] at h
    obtain ⟨rfl, rfl⟩ := h
    exact ⟨log :: logs, log ++ events, List.append_assoc .., World.answers_append.2 ⟨ha, ha'⟩,
      hm.append log, .cons hy he⟩

/-- **Sessions that run together have logs of their own, and what happened is a merge of these.** -/
theorem interleave_spec {schedule : List Nat} {sessions : List (Session α)} {t t' : Trace}
    {results : List (Except Stop α)} (h : interleave w schedule sessions t = (results, t')) :
    ∃ logs events, t' = t ++ events ∧ w.Answers t events ∧ Merges logs events ∧
      YieldEach sessions logs results := by
  induction schedule generalizing sessions t with
  | nil => exact runEach_spec h
  | cons i schedule ih =>
    rw [interleave] at h
    cases hi : sessions[i]? with
    | none => rw [hi] at h; exact ih h
    | some s =>
      rw [hi] at h
      by_cases hs : Waits s
      · obtain ⟨e, s', take, he, hstep⟩ := hs.exists_step w t
        simp only [hstep] at h
        obtain ⟨logs, events, rfl, ha, hm, hy⟩ := ih h
        obtain ⟨log, hlog, hy'⟩ := YieldEach.of_set hi take hy
        obtain ⟨hlt, rfl⟩ := List.getElem?_eq_some_iff.1 hlog
        refine ⟨logs.set i (e :: logs[i]), e :: events, List.append_assoc t [e] events, ⟨he, ha⟩,
          .cons (List.getElem?_set_self hlt) ?_, hy'⟩
        rw [List.set_set, List.set_getElem_self]
        exact hm
      · -- an ended session stays as it is
        obtain ⟨_, rfl⟩ := List.getElem?_eq_some_iff.1 hi
        simp only [step_of_not_waits hs, List.set_getElem_self] at h
        exact ih h

end Session

end TagCatalog
