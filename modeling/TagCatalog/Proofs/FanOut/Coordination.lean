import Mathlib.Data.List.Induction
import Mathlib.Data.List.Perm.Basic
import Mathlib.Data.Option.Basic
import TagCatalog.FanOut

/-!
# The coordination of a fan-out

The tasks of a fan-out end in any order, and in any order they are joined once they have ended. The
channel is drained when nothing is left to join. The invariant of every run relates the state to
the two orders: who is still at work, who waits to be joined, what the channel holds and which
failure was seen last.

* `FanOut.State`, `FanOut.Move`, `FanOut.State.run`: the moves before the channel is drained;
* `FanOut.Inv`, `FanOut.Inv.move`, `FanOut.inv_run`: the invariant, for one move and for a run;
* `FanOut.exists_run`: all orders of ending and of joining occur;
* `FanOut.collect_eq`: what is collected, as a function of the two orders;
* **`FanOut.result_of_orders`**: the result of a fan-out for every pair of orders.
-/

namespace TagCatalog

namespace Outcome

/-- The records of a task that succeeded. -/
def listed : Outcome → List Record
  | .records list => list
  | _ => []

/-- The error of a task that failed. -/
def failure? : Outcome → Option CatalogError
  | .failed e => some e
  | _ => none

/-- The failure that a crashed task counts as. -/
def crash? : Outcome → Option CatalogError
  | .crashed reason => some (.branchCrashed reason)
  | _ => none

/-- The task neither failed nor crashed. -/
def Succeeds (o : Outcome) : Prop := o.failure? = none ∧ o.crash? = none

end Outcome

namespace FanOut

/-- The state of a fan-out whose channel is not drained yet; a task is given by its outcome. -/
structure State where
  /-- The tasks at work. -/
  running : List Outcome
  /-- The tasks that have ended and are not joined. -/
  waiting : List Outcome
  channel : List (Except CatalogError (List Record))
  /-- The last failure that joining brought to light. -/
  last : Option CatalogError

/-- What happens next. -/
inductive Move where
  /-- A task ends, and sends its outcome unless it crashes. -/
  | ends (o : Outcome)
  /-- A task that has ended is joined. -/
  | joins (o : Outcome)

/-- All tasks are at work. -/
def State.start (tasks : List Outcome) : State := ⟨tasks, [], [], none⟩

/-- The state after a move, if the move is possible. -/
def State.move (s : State) : Move → Option State
  | .ends o =>
    if o ∈ s.running then
      some { s with
        running := s.running.erase o
        waiting := s.waiting ++ [o]
        channel := s.channel ++ (sent? o).toList }
    else none
  | .joins o =>
    if o ∈ s.waiting then
      some { s with waiting := s.waiting.erase o, last := o.crash? <|> s.last }
    else none

/-- The state after several moves. -/
def State.run (s : State) (moves : List Move) : Option State := moves.foldlM State.move s

/-- Nothing is left to join, and the channel is drained. -/
def State.Joined (s : State) : Prop := s.running = [] ∧ s.waiting = []

/-- What draining the channel gives. -/
def State.result (s : State) : Except CatalogError (List Record) := (drain s.last s.channel).result

/-- The tasks in the order they end. -/
def endings (moves : List Move) : List Outcome :=
  moves.filterMap fun m => match m with
    | .ends o => some o
    | .joins _ => none

/-- The tasks in the order they are joined. -/
def joinings (moves : List Move) : List Outcome :=
  moves.filterMap fun m => match m with
    | .ends _ => none
    | .joins o => some o

/-! ## The invariant -/

theorem channel_append (ended ended' : List Outcome) :
    channel (ended ++ ended') = channel ended ++ channel ended' := List.filterMap_append

theorem channel_singleton (o : Outcome) : channel [o] = (sent? o).toList := by
  cases o <;> rfl

theorem afterJoining_concat (joined : List Outcome) (o : Outcome) :
    afterJoining (joined ++ [o]) = (o.crash? <|> afterJoining joined) := by
  rw [afterJoining, List.foldl_append]
  cases o <;> rfl

/-- The state of a fan-out of `tasks` after `moves`. -/
structure Inv (tasks : List Outcome) (moves : List Move) (s : State) : Prop where
  running : (endings moves ++ s.running).Perm tasks
  waiting : (joinings moves ++ s.waiting).Perm (endings moves)
  channel : s.channel = FanOut.channel (endings moves)
  last : s.last = afterJoining (joinings moves)

theorem inv_start (tasks : List Outcome) : Inv tasks [] (.start tasks) :=
  ⟨.refl _, .refl _, rfl, rfl⟩

/-- **A move keeps the invariant.** -/
theorem Inv.move {tasks : List Outcome} {moves : List Move} {s s' : State} {m : Move}
    (h : Inv tasks moves s) (hm : s.move m = some s') : Inv tasks (moves ++ [m]) s' := by
  cases m with
  | ends o =>
    have he : endings (moves ++ [.ends o]) = endings moves ++ [o] := List.filterMap_append
    have hj : joinings (moves ++ [.ends o]) = joinings moves := by
      rw [joinings, List.filterMap_append]
      exact List.append_nil _
    rw [State.move] at hm
    split at hm
    · next ho =>
      cases hm
      refine ⟨?_, ?_, ?_, ?_⟩
      · rw [he, List.append_assoc]
        exact ((List.perm_cons_erase ho).symm.append_left _).trans h.running
      · rw [he, hj, ← List.append_assoc]
        exact h.waiting.append_right [o]
      · rw [he, channel_append, channel_singleton, ← h.channel]
      · rw [hj]
        exact h.last
    · nomatch hm
  | joins o =>
    have he : endings (moves ++ [.joins o]) = endings moves := by
      rw [endings, List.filterMap_append]
      exact List.append_nil _
    have hj : joinings (moves ++ [.joins o]) = joinings moves ++ [o] := List.filterMap_append
    rw [State.move] at hm
    split at hm
    · next ho =>
      cases hm
      refine ⟨?_, ?_, ?_, ?_⟩
      · rw [he]
        exact h.running
      · rw [he, hj, List.append_assoc]
        exact ((List.perm_cons_erase ho).symm.append_left _).trans h.waiting
      · rw [he]
        exact h.channel
      · rw [hj, afterJoining_concat, ← h.last]
    · nomatch hm

theorem run_concat (s : State) (moves : List Move) (m : Move) :
    s.run (moves ++ [m]) = (s.run moves).bind fun s' => s'.move m := by
  rw [State.run, List.foldlM_append]
  cases h : s.run moves with
  | none => rw [State.run] at h; rw [h]; rfl
  | some s' =>
    rw [State.run] at h
    rw [h]
    exact bind_pure (s'.move m)

/-- **Every run keeps the invariant.** -/
theorem inv_run {tasks : List Outcome} {moves : List Move} {s : State}
    (h : (State.start tasks).run moves = some s) : Inv tasks moves s := by
  induction moves using List.reverseRecOn generalizing s with
  | nil => cases h; exact inv_start tasks
  | append_singleton moves m ih =>
    rw [run_concat, Option.bind_eq_some_iff] at h
    obtain ⟨s', hs', hm⟩ := h
    exact (ih hs').move hm

/-! ## Runs for all orders -/

theorem run_ends (ended : List Outcome) {s : State} (h : s.running.Perm ended) :
    ∃ s', s.run (ended.map .ends) = some s' ∧ s'.running = [] ∧
      s'.waiting = s.waiting ++ ended := by
  induction ended generalizing s with
  | nil => exact ⟨s, rfl, h.eq_nil, (List.append_nil _).symm⟩
  | cons o ended ih =>
    have ho : o ∈ s.running := h.mem_iff.2 List.mem_cons_self
    have hrest : (s.running.erase o).Perm ended := by
      have := h.erase o
      rwa [List.erase_cons_head] at this
    obtain ⟨s', hs', hr, hw⟩ := ih (s := { s with
      running := s.running.erase o
      waiting := s.waiting ++ [o]
      channel := s.channel ++ (sent? o).toList }) hrest
    refine ⟨s', ?_, hr, by rw [hw, List.append_assoc]; rfl⟩
    rw [State.run, List.map_cons, List.foldlM_cons, State.move, if_pos ho]
    exact hs'

theorem run_joins (joined : List Outcome) {s : State} (h : s.waiting.Perm joined) :
    ∃ s', s.run (joined.map .joins) = some s' ∧ s'.running = s.running ∧ s'.waiting = [] := by
  induction joined generalizing s with
  | nil => exact ⟨s, rfl, rfl, h.eq_nil⟩
  | cons o joined ih =>
    have ho : o ∈ s.waiting := h.mem_iff.2 List.mem_cons_self
    have hrest : (s.waiting.erase o).Perm joined := by
      have := h.erase o
      rwa [List.erase_cons_head] at this
    obtain ⟨s', hs', hr, hw⟩ := ih (s := { s with
      waiting := s.waiting.erase o
      last := o.crash? <|> s.last }) hrest
    refine ⟨s', ?_, hr, hw⟩
    rw [State.run, List.map_cons, List.foldlM_cons, State.move, if_pos ho]
    exact hs'

theorem endings_ends_joins (ended joined : List Outcome) :
    endings (ended.map .ends ++ joined.map .joins) = ended := by
  rw [endings, List.filterMap_append, List.filterMap_map, List.filterMap_map]
  have h : (joined.filterMap fun _ => (none : Option Outcome)) = [] := by simp
  exact (congrArg₂ (· ++ ·) List.filterMap_some h).trans (List.append_nil ended)

theorem joinings_ends_joins (ended joined : List Outcome) :
    joinings (ended.map .ends ++ joined.map .joins) = joined := by
  rw [joinings, List.filterMap_append, List.filterMap_map, List.filterMap_map]
  have h : (ended.filterMap fun _ => (none : Option Outcome)) = [] := by simp
  exact congrArg₂ (· ++ ·) h List.filterMap_some

/-- **Tasks may end in any order and be joined in any other.** -/
theorem exists_run {tasks ended joined : List Outcome} (he : ended.Perm tasks)
    (hj : joined.Perm tasks) : ∃ moves s, (State.start tasks).run moves = some s ∧
      endings moves = ended ∧ joinings moves = joined := by
  obtain ⟨s, hs, _, hw⟩ := run_ends ended (s := .start tasks) he.symm
  have hw' : s.waiting.Perm joined := by
    rw [hw]
    exact he.trans hj.symm
  obtain ⟨s', hs', _, _⟩ := run_joins joined hw'
  refine ⟨ended.map .ends ++ joined.map .joins, s', ?_, endings_ends_joins ended joined,
    joinings_ends_joins ended joined⟩
  rw [State.run] at hs hs' ⊢
  rw [List.foldlM_append, hs]
  exact hs'

/-! ## The result -/

theorem drain_channel (last : Option CatalogError) (ended : List Outcome) :
    drain last (channel ended) =
      ⟨ended.flatMap Outcome.listed, (ended.filterMap Outcome.failure?).getLast? <|> last⟩ := by
  induction ended using List.reverseRecOn with
  | nil => rfl
  | append_singleton ended o ih =>
    rw [channel_append, channel_singleton, drain, List.foldl_append, ← drain, ih,
      List.flatMap_append, List.filterMap_append]
    cases o with
    | records list => simp [sent?, Collected.take, Outcome.listed, Outcome.failure?]
    | failed e => simp [sent?, Collected.take, Outcome.listed, Outcome.failure?]
    | crashed reason => simp [sent?, Outcome.listed, Outcome.failure?]

theorem afterJoining_eq (joined : List Outcome) :
    afterJoining joined = (joined.filterMap Outcome.crash?).getLast? := by
  induction joined using List.reverseRecOn with
  | nil => rfl
  | append_singleton joined o ih =>
    rw [afterJoining_concat, ih, List.filterMap_append]
    cases o <;> simp [Outcome.crash?]

/-- The failure that is returned if there are no records: the last one sent, or else the crash of
the task joined last. -/
def lastFailure? (ended joined : List Outcome) : Option CatalogError :=
  (ended.filterMap Outcome.failure?).getLast? <|> (joined.filterMap Outcome.crash?).getLast?

/-- **What is collected, as a function of the two orders.** -/
theorem collect_eq (ended joined : List Outcome) : collect ended joined =
    Collected.result ⟨ended.flatMap Outcome.listed, lastFailure? ended joined⟩ := by
  rw [collect, drain_channel, afterJoining_eq, lastFailure?]

theorem lastFailure?_eq_none_iff {tasks ended joined : List Outcome} (he : ended.Perm tasks)
    (hj : joined.Perm tasks) : lastFailure? ended joined = none ↔ ∀ o ∈ tasks, o.Succeeds := by
  rw [lastFailure?, Option.orElse_eq_none, List.getLast?_eq_none_iff, List.getLast?_eq_none_iff,
    List.filterMap_eq_nil_iff, List.filterMap_eq_nil_iff]
  constructor
  · rintro ⟨h, h'⟩ o ho
    exact ⟨h o (he.mem_iff.2 ho), h' o (hj.mem_iff.2 ho)⟩
  · intro h
    exact ⟨fun o ho => (h o (he.mem_iff.1 ho)).1, fun o ho => (h o (hj.mem_iff.1 ho)).2⟩

theorem collect_eq_ok_iff {tasks ended joined : List Outcome} (he : ended.Perm tasks)
    (hj : joined.Perm tasks) {records : List Record} : collect ended joined = .ok records ↔
      records = ended.flatMap Outcome.listed ∧ (records ≠ [] ∨ ∀ o ∈ tasks, o.Succeeds) := by
  rw [collect_eq, ← lastFailure?_eq_none_iff he hj, Collected.result]
  cases lastFailure? ended joined with
  | none =>
    rw [Except.ok.injEq]
    exact ⟨fun h => ⟨h.symm, .inr rfl⟩, fun h => h.1.symm⟩
  | some e =>
    constructor
    · intro h
      dsimp only at h
      split at h
      · nomatch h
      · next hne =>
        cases h
        exact ⟨rfl, .inl hne⟩
    · rintro ⟨rfl, hne | hnone⟩
      · exact if_neg hne
      · nomatch hnone

theorem branchCrashed_of_mem {joined : List Outcome} {e : CatalogError}
    (h : e ∈ joined.filterMap Outcome.crash?) :
    e.kind = .transport ∧ ∃ rest, e.detail = "Branch task did not complete: " ++ rest := by
  obtain ⟨o, _, ho⟩ := List.mem_filterMap.1 h
  cases o with
  | records | failed => nomatch ho
  | crashed reason =>
    cases ho
    refine ⟨rfl, "task N panicked with message " ++
      String.ofList (Text.Quoted.encode reason.toList), ?_⟩
    rw [← String.append_assoc]
    rfl

theorem drained_of_run {tasks : List Outcome} {moves : List Move} {s : State}
    (h : (State.start tasks).run moves = some s) (he : (endings moves).Perm tasks)
    (hj : (joinings moves).Perm tasks) : s.Joined ∧ s.channel = (endings moves).filterMap sent? ∧
      s.result = collect (endings moves) (joinings moves) := by
  have hinv := inv_run h
  have hr : s.running = [] := by
    have := (hinv.running.trans he.symm).length_eq
    rw [List.length_append] at this
    exact List.length_eq_zero_iff.1 (by omega)
  have hw : s.waiting = [] := by
    have := (hinv.waiting.trans (he.trans hj.symm)).length_eq
    rw [List.length_append] at this
    exact List.length_eq_zero_iff.1 (by omega)
  refine ⟨⟨hr, hw⟩, hinv.channel, ?_⟩
  rw [State.result, hinv.channel, hinv.last]
  rfl

/-- **The result of a fan-out**, for all orders in which its tasks end and are joined. Runs with
these orders exist; whichever of them it is, the channel that is drained holds one outcome for each
task that did not crash and nothing else. The records are returned in the order they were sent,
unless there are none and a task did not succeed: then the result is the error sent last, or else
the crash of the task joined last. -/
theorem result_of_orders {tasks ended joined : List Outcome} (he : ended.Perm tasks)
    (hj : joined.Perm tasks) :
    (∃ moves s, (State.start tasks).run moves = some s ∧ endings moves = ended ∧
      joinings moves = joined) ∧
    (∀ moves s, (State.start tasks).run moves = some s → endings moves = ended →
      joinings moves = joined → s.Joined ∧ s.channel = ended.filterMap sent? ∧
        s.channel.Perm (tasks.filterMap sent?) ∧ s.result = collect ended joined) ∧
    ((ended.flatMap Outcome.listed ≠ [] ∨ ∀ o ∈ tasks, o.Succeeds) →
      collect ended joined = .ok (ended.flatMap Outcome.listed)) ∧
    (ended.flatMap Outcome.listed = [] → (¬ ∀ o ∈ tasks, o.Succeeds) →
      ∃ e, collect ended joined = .error e ∧
        ((ended.filterMap Outcome.failure?).getLast? = some e ∨
          ended.filterMap Outcome.failure? = [] ∧
            (joined.filterMap Outcome.crash?).getLast? = some e ∧ e.kind = .transport ∧
              ∃ rest, e.detail = "Branch task did not complete: " ++ rest)) := by
  refine ⟨exists_run he hj, ?_, ?_, ?_⟩
  · rintro moves s hs rfl rfl
    obtain ⟨hjoined, hchannel, hresult⟩ := drained_of_run hs he hj
    refine ⟨hjoined, hchannel, ?_, hresult⟩
    rw [hchannel]
    exact he.filterMap sent?
  · exact fun h => (collect_eq_ok_iff he hj).2 ⟨rfl, h⟩
  · intro hnil hfail
    cases hlast : lastFailure? ended joined with
    | none => exact absurd ((lastFailure?_eq_none_iff he hj).1 hlast) hfail
    | some e =>
      refine ⟨e, ?_, ?_⟩
      · rw [collect_eq, hlast, hnil]
        rfl
      · rw [lastFailure?, Option.orElse_eq_some] at hlast
        refine hlast.imp id fun ⟨hnone, hcrash⟩ => ⟨List.getLast?_eq_none_iff.1 hnone, hcrash, ?_⟩
        exact branchCrashed_of_mem (List.mem_of_getLast? hcrash)

/-- Of two crashes the one joined last is returned, in whatever order the tasks ended. -/
theorem result_of_orders_crashes :
    [Outcome.crashed "b", .records [], .crashed "a"].Perm
        [.crashed "a", .crashed "b", .records []] ∧
      [Outcome.records [], .crashed "a", .crashed "b"].Perm
        [.crashed "a", .crashed "b", .records []] ∧
      ∃ e, collect [.crashed "b", .records [], .crashed "a"]
          [.records [], .crashed "a", .crashed "b"] = .error e ∧ e = .branchCrashed "b" := by
  have he : [Outcome.crashed "b", .records [], .crashed "a"].Perm
      [.crashed "a", .crashed "b", .records []] := by decide
  have hj : [Outcome.records [], .crashed "a", .crashed "b"].Perm
      [.crashed "a", .crashed "b", .records []] := by decide
  refine ⟨he, hj, ?_⟩
  obtain ⟨e, h, hlast | ⟨_, hlast, _⟩⟩ := (result_of_orders he hj).2.2.2 rfl fun h =>
    nomatch (h (.crashed "a") List.mem_cons_self).2
  · nomatch hlast
  · cases hlast
    exact ⟨_, h, rfl⟩

end FanOut

end TagCatalog
