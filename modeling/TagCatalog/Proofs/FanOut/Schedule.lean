import Mathlib.Data.List.Forall2
import TagCatalog.Proofs.FanOut.Coordination
import TagCatalog.Proofs.Record.Ties

/-!
# Independence of the schedule

The order in which the tasks of a fan-out end and are joined decides which error is returned and
where records of the same time stand, and nothing else: the records of one time and one branch come
from one task, so every schedule puts them in the same order.

* `Outcome.Carries`: the records of a task carry the label of its branch;
* `FanOut.flatMap_eq_of_perm`: blocks of which at most one is not empty, in any order;
* `FanOut.filter_listed_eq_of_perm`: the records of one branch, in any order of the tasks;
* **`FanOut.independent_of_orders`**: what two schedules have in common.
-/

namespace TagCatalog

/-- The records of the task carry the label. -/
def Outcome.Carries (label : String) (o : Outcome) : Prop := ∀ r ∈ o.listed, r.branch = label

namespace FanOut

/-- Blocks of which at most one is not empty may be put together in any order. -/
theorem flatMap_eq_of_perm {α β : Type} {g : α → List β} {l l' : List α} (h : l.Perm l')
    (hg : l.Pairwise fun a b => g a = [] ∨ g b = []) : l.flatMap g = l'.flatMap g := by
  induction h with
  | nil => rfl
  | cons a _ ih => rw [List.flatMap_cons, List.flatMap_cons, ih hg.of_cons]
  | swap a b l =>
    rw [List.flatMap_cons, List.flatMap_cons, List.flatMap_cons, List.flatMap_cons]
    rcases List.rel_of_pairwise_cons hg List.mem_cons_self with hnil | hnil
    · rw [hnil, List.nil_append, List.nil_append]
    · rw [hnil, List.nil_append, List.nil_append]
  | trans h _ ih ih' => exact (ih hg).trans (ih' ((h.pairwise_iff Or.symm).1 hg))

theorem pairwise_filter_listed {labels : List String} {tasks : List Outcome} {p : Record → Bool}
    (hlabels : labels.Nodup) (htasks : List.Forall₂ Outcome.Carries labels tasks)
    (hp : ∀ a b, p a → p b → a.branch ∈ labels → a.branch = b.branch) :
    tasks.Pairwise fun o o' => o.listed.filter p = [] ∨ o'.listed.filter p = [] := by
  induction htasks with
  | nil => exact .nil
  | @cons label o labels tasks ho htasks ih =>
    rw [List.nodup_cons] at hlabels
    refine .cons (fun o' ho' => ?_)
      (ih hlabels.2 fun a b ha hb hmem => hp a b ha hb (List.mem_cons_of_mem label hmem))
    obtain ⟨label', hlabel', hcarries⟩ : ∃ label' ∈ labels, o'.Carries label' := by
      obtain ⟨i, hi, rfl⟩ := List.getElem_of_mem ho'
      have hi' : i < labels.length := htasks.length_eq ▸ hi
      exact ⟨labels[i], List.getElem_mem hi', htasks.get hi' hi⟩
    by_contra hne
    rw [not_or] at hne
    obtain ⟨a, ha⟩ := List.exists_mem_of_ne_nil _ hne.1
    obtain ⟨b, hb⟩ := List.exists_mem_of_ne_nil _ hne.2
    rw [List.mem_filter] at ha hb
    have hab := hp a b ha.2 hb.2 (by rw [ho a ha.1]; exact List.mem_cons_self)
    rw [ho a ha.1, hcarries b hb.1] at hab
    exact hlabels.1 (hab ▸ hlabel')

/-- The records of one branch that `p` selects stand in the same order, whichever task is first. -/
theorem filter_listed_eq_of_perm {labels : List String} {tasks ended : List Outcome}
    {p : Record → Bool} (hlabels : labels.Nodup)
    (htasks : List.Forall₂ Outcome.Carries labels tasks) (he : ended.Perm tasks)
    (hp : ∀ a b, p a → p b → a.branch ∈ labels → a.branch = b.branch) :
    (ended.flatMap Outcome.listed).filter p = (tasks.flatMap Outcome.listed).filter p := by
  rw [List.filter_flatMap, List.filter_flatMap]
  exact (flatMap_eq_of_perm he.symm (pairwise_filter_listed hlabels htasks hp)).symm

/-- **Two schedules of the same tasks both succeed or both fail. If they succeed, their records,
sorted by recency, are the same up to the order of the branches within each run of equal times.** -/
theorem independent_of_orders {labels : List String}
    {tasks ended joined ended' joined' : List Outcome} (hlabels : labels.Nodup)
    (htasks : List.Forall₂ Outcome.Carries labels tasks) (he : ended.Perm tasks)
    (hj : joined.Perm tasks) (he' : ended'.Perm tasks) (hj' : joined'.Perm tasks) :
    (∃ records records',
      (collect ended joined).map Record.sortByRecency = .ok records ∧
      (collect ended' joined').map Record.sortByRecency = .ok records' ∧
      Record.arrangeTies labels records = Record.arrangeTies labels records') ∨
    ∃ e e', (collect ended joined).map Record.sortByRecency = .error e ∧
      (collect ended' joined').map Record.sortByRecency = .error e' := by
  have hnil : ended.flatMap Outcome.listed = [] ↔ ended'.flatMap Outcome.listed = [] := by
    rw [← List.length_eq_zero_iff, ((he.trans he'.symm).flatMap_right Outcome.listed).length_eq,
      List.length_eq_zero_iff]
  have hties : Record.arrangeTies labels (Record.sortByRecency (ended.flatMap Outcome.listed)) =
      Record.arrangeTies labels (Record.sortByRecency (ended'.flatMap Outcome.listed)) := by
    refine Record.arrangeTies_sortByRecency_eq fun a => ?_
    have hp : ∀ b c, StableSort.tied (Record.settled labels) a b →
        StableSort.tied (Record.settled labels) a c → b.branch ∈ labels → b.branch = c.branch := by
      intro b c hb hc hmem
      have hplace := (Record.tied_settled_iff.1 hb).2.symm.trans (Record.tied_settled_iff.1 hc).2
      exact (List.idxOf_inj hmem).1 hplace
    rw [filter_listed_eq_of_perm hlabels htasks he hp,
      filter_listed_eq_of_perm hlabels htasks he' hp]
  by_cases h : ended.flatMap Outcome.listed ≠ [] ∨ ∀ o ∈ tasks, o.Succeeds
  · have h' := h.imp_left (not_congr hnil).1
    refine .inl ⟨_, _, ?_, ?_, hties⟩
    · rw [(collect_eq_ok_iff he hj).2 ⟨rfl, h⟩]
      rfl
    · rw [(collect_eq_ok_iff he' hj').2 ⟨rfl, h'⟩]
      rfl
  · have h' := mt (Or.imp_left (not_congr hnil).2) h
    refine .inr ?_
    cases hc : collect ended joined with
    | ok records =>
      obtain ⟨rfl, hok⟩ := (collect_eq_ok_iff he hj).1 hc
      exact absurd hok h
    | error e =>
      cases hc' : collect ended' joined' with
      | ok records =>
        obtain ⟨rfl, hok⟩ := (collect_eq_ok_iff he' hj').1 hc'
        exact absurd hok h'
      | error e' => exact ⟨e, e', rfl, rfl⟩

/-- Records of one time come in another order when another task ends first. -/
theorem independent_of_orders_tie :
    ["main", "dev"].Nodup ∧
      List.Forall₂ Outcome.Carries ["main", "dev"]
        [.records [⟨"5-a", "main", "a", some 5⟩], .records [⟨"5-b", "dev", "b", some 5⟩]] ∧
      [Outcome.records [⟨"5-b", "dev", "b", some 5⟩],
        .records [⟨"5-a", "main", "a", some 5⟩]].Perm
          [.records [⟨"5-a", "main", "a", some 5⟩], .records [⟨"5-b", "dev", "b", some 5⟩]] ∧
      ∃ records records',
        (collect [.records [⟨"5-a", "main", "a", some 5⟩], .records [⟨"5-b", "dev", "b", some 5⟩]]
          [.records [⟨"5-a", "main", "a", some 5⟩],
            .records [⟨"5-b", "dev", "b", some 5⟩]]).map Record.sortByRecency = .ok records ∧
        (collect [.records [⟨"5-b", "dev", "b", some 5⟩], .records [⟨"5-a", "main", "a", some 5⟩]]
          [.records [⟨"5-a", "main", "a", some 5⟩],
            .records [⟨"5-b", "dev", "b", some 5⟩]]).map Record.sortByRecency = .ok records' ∧
        records ≠ records' ∧
        Record.arrangeTies ["main", "dev"] records =
          Record.arrangeTies ["main", "dev"] records' := by
  have hlabels : ["main", "dev"].Nodup := by decide
  have htasks : List.Forall₂ Outcome.Carries ["main", "dev"]
      [.records [⟨"5-a", "main", "a", some 5⟩], .records [⟨"5-b", "dev", "b", some 5⟩]] :=
    .cons (List.forall_mem_singleton.2 rfl) (.cons (List.forall_mem_singleton.2 rfl) .nil)
  have hswap : [Outcome.records [⟨"5-b", "dev", "b", some 5⟩],
      .records [⟨"5-a", "main", "a", some 5⟩]].Perm
        [.records [⟨"5-a", "main", "a", some 5⟩], .records [⟨"5-b", "dev", "b", some 5⟩]] :=
    .swap _ _ _
  refine ⟨hlabels, htasks, hswap, ?_⟩
  rcases independent_of_orders hlabels htasks (.refl _) (.refl _) hswap (.refl _) with
    ⟨records, records', h, h', hties⟩ | ⟨e, _, h, _⟩
  · refine ⟨records, records', h, h', ?_, hties⟩
    cases h
    cases h'
    -- Neither order is changed by the sort, since the times are equal.
    rw [Record.sortByRecency, List.mergeSort_of_pairwise (by decide), Record.sortByRecency,
      List.mergeSort_of_pairwise (by decide)]
    decide
  · cases h

end FanOut

end TagCatalog
