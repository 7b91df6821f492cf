import Mathlib.Data.List.SplitBy
import TagCatalog.Proofs.Record.Recency

/-!
# Records of the same time

Sorting by recency leaves records of the same time as they were. They can be put in an order that
depends on the records alone: in each maximal run of equal times, by the place of the branch in a
list of labels.

* `Record.arrangeTies`: orders each run of equal times by the place of the branch;
* `Record.settled`: the order in which the records stand then;
* **`Record.arrangeTies_sortByRecency_eq`**: lists with the same classes of one time and one branch
  become equal.
-/

namespace TagCatalog.Record

/-- Orders each maximal run of records of the same time by the place of the branch in `labels`;
records of one branch keep their order. -/
def arrangeTies (labels : List String) (records : List Record) : List Record :=
  (records.splitBy fun a b => a.seconds == b.seconds).flatMap fun run =>
    run.mergeSort fun a b => labels.idxOf a.branch ≤ labels.idxOf b.branch

/-- `a` may stand before `b`: it is more recent, or of the same time and of no later branch. -/
def settled (labels : List String) (a b : Record) : Bool :=
  recent a.seconds b.seconds &&
    (a.seconds != b.seconds || labels.idxOf a.branch ≤ labels.idxOf b.branch)

variable {labels : List String}

theorem settled_refl (a : Record) : settled labels a a := by
  rw [settled, recent_refl, Bool.true_and, Bool.or_eq_true]
  exact .inr (decide_eq_true (Nat.le_refl _))

theorem settled_of_lt {a b : Record} (h : recent a.seconds b.seconds)
    (hne : a.seconds ≠ b.seconds) : settled labels a b := by
  rw [settled, h, Bool.true_and, Bool.or_eq_true]
  exact .inl (bne_iff_ne.2 hne)

theorem settled_of_eq {a b : Record} (h : a.seconds = b.seconds)
    (hle : labels.idxOf a.branch ≤ labels.idxOf b.branch) : settled labels a b := by
  rw [settled, h, recent_refl, Bool.true_and, Bool.or_eq_true]
  exact .inr (decide_eq_true hle)

theorem tied_settled_iff {a b : Record} : StableSort.tied (settled labels) a b ↔
    a.seconds = b.seconds ∧ labels.idxOf a.branch = labels.idxOf b.branch := by
  constructor
  · intro h
    rw [StableSort.tied, settled, settled, Bool.and_eq_true, Bool.and_eq_true, Bool.and_eq_true,
      Bool.or_eq_true, Bool.or_eq_true] at h
    obtain ⟨⟨hab, hle⟩, hba, hle'⟩ := h
    have heq := recent_antisymm hab hba
    have hplace := fun {x y : Record} (h : x.seconds = y.seconds)
        (hle : (x.seconds != y.seconds) = true ∨
          decide (labels.idxOf x.branch ≤ labels.idxOf y.branch) = true) =>
      of_decide_eq_true (hle.resolve_left fun hne => bne_iff_ne.1 hne h)
    exact ⟨heq, Nat.le_antisymm (hplace heq hle) (hplace heq.symm hle')⟩
  · rintro ⟨heq, hplace⟩
    rw [StableSort.tied, settled_of_eq heq (Nat.le_of_eq hplace),
      settled_of_eq heq.symm (Nat.le_of_eq hplace.symm)]
    rfl

/-! ## Runs of equal times -/

theorem seconds_eq_of_mem_run {run : List Record}
    (h : run.IsChain fun a b => (a.seconds == b.seconds) = true) :
    ∀ a ∈ run, ∀ b ∈ run, a.seconds = b.seconds := by
  have htrans : Trans (fun a b : Record => a.seconds = b.seconds)
      (fun a b : Record => a.seconds = b.seconds) (fun a b : Record => a.seconds = b.seconds) :=
    ⟨fun h h' => h.trans h'⟩
  have hsymm : Std.Symm fun a b : Record => a.seconds = b.seconds := ⟨fun _ _ h => h.symm⟩
  have hp : run.Pairwise fun a b : Record => a.seconds = b.seconds :=
    List.isChain_iff_pairwise.1 (h.imp fun _ _ h => beq_iff_eq.1 h)
  intro a ha b hb
  exact List.Pairwise.forall_of_forall (R := fun a b : Record => a.seconds = b.seconds)
    (fun _ _ => rfl) hp ha hb

theorem pairwise_runs {runs : List (List Record)}
    (hrun : ∀ run ∈ runs, ∀ a ∈ run, ∀ b ∈ run, a.seconds = b.seconds)
    (hchain : runs.IsChain fun r r' =>
      ∃ h h', ((r.getLast h).seconds == (r'.head h').seconds) = false)
    (hsorted : runs.flatten.Pairwise fun a b => recent a.seconds b.seconds) :
    runs.Pairwise fun r r' => ∀ a ∈ r, ∀ b ∈ r', a.seconds ≠ b.seconds := by
  induction runs with
  | nil => exact .nil
  | cons r runs ih =>
    rw [List.flatten_cons, List.pairwise_append] at hsorted
    obtain ⟨_, hrest, hcross⟩ := hsorted
    refine .cons (fun r' hr' a ha b hb heq => ?_)
      (ih (fun run h => hrun run (List.mem_cons_of_mem r h)) hchain.tail hrest)
    cases runs with
    | nil => nomatch hr'
    | cons q runs =>
      -- the head of the next run lies between `a` and `b`, and is not of the time of `a`
      obtain ⟨h, h', hne⟩ := (List.isChain_cons_cons.1 hchain).1
      have hq : q.head h' ∈ (q :: runs).flatten :=
        List.mem_flatten.2 ⟨q, List.mem_cons_self, List.head_mem h'⟩
      have hqb : recent (q.head h').seconds b.seconds := by
        rcases List.mem_cons.1 hr' with rfl | hr'
        · rw [hrun r' (by simp) _ (List.head_mem h') b hb]
          exact recent_refl _
        · rw [List.flatten_cons, List.pairwise_append] at hrest
          exact hrest.2.2 _ (List.head_mem h') b (List.mem_flatten.2 ⟨r', hr', hb⟩)
      have haq : a.seconds = (q.head h').seconds :=
        recent_antisymm (hcross a ha _ hq) (heq ▸ hqb)
      rw [hrun r List.mem_cons_self a ha _ (List.getLast_mem h)] at haq
      exact beq_eq_false_iff_ne.1 hne haq

theorem place_trans (a b c : Record)
    (hab : decide (labels.idxOf a.branch ≤ labels.idxOf b.branch))
    (hbc : decide (labels.idxOf b.branch ≤ labels.idxOf c.branch)) :
    decide (labels.idxOf a.branch ≤ labels.idxOf c.branch) :=
  decide_eq_true (Nat.le_trans (of_decide_eq_true hab) (of_decide_eq_true hbc))

theorem place_total (a b : Record) : decide (labels.idxOf a.branch ≤ labels.idxOf b.branch) ||
    decide (labels.idxOf b.branch ≤ labels.idxOf a.branch) := by
  rw [Bool.or_eq_true]
  exact (Nat.le_total _ _).imp decide_eq_true decide_eq_true

theorem filter_arrangeTies {p : Record → Bool}
    (hp : ∀ a b, p a → p b → labels.idxOf a.branch = labels.idxOf b.branch)
    (records : List Record) : (arrangeTies labels records).filter p = records.filter p := by
  have hrun : ∀ run : List Record,
      (run.mergeSort fun a b => labels.idxOf a.branch ≤ labels.idxOf b.branch).filter p =
        run.filter p := by
    intro run
    refine StableSort.filter_mergeSort place_trans place_total (fun a b ha hb => ?_) run
    exact decide_eq_true (Nat.le_of_eq (hp a b ha hb))
  rw [arrangeTies, List.filter_flatMap, funext hrun, ← List.filter_flatMap, List.flatMap_id',
    List.flatten_splitBy]

theorem pairwise_arrangeTies {records : List Record}
    (h : records.Pairwise fun a b => recent a.seconds b.seconds) :
    (arrangeTies labels records).Pairwise (settled labels · ·) := by
  set runs := records.splitBy fun a b => a.seconds == b.seconds with hruns
  have hflat : runs.flatten = records := List.flatten_splitBy ..
  have hrun : ∀ run ∈ runs, ∀ a ∈ run, ∀ b ∈ run, a.seconds = b.seconds :=
    fun run hr => seconds_eq_of_mem_run (List.isChain_of_mem_splitBy hr)
  have hchain : runs.IsChain fun r r' => ∃ h h',
      ((r.getLast h).seconds == (r'.head h').seconds) = false :=
    List.isChain_getLast_head_splitBy (fun a b : Record => a.seconds == b.seconds) records
  have hdiff := pairwise_runs hrun hchain (hflat.symm ▸ h)
  have hcross := (List.pairwise_flatten.1 (hflat.symm ▸ h)).2
  rw [arrangeTies, List.pairwise_flatMap]
  constructor
  · intro run hr
    refine (List.pairwise_mergeSort place_trans place_total run).imp_of_mem
      fun {a b} ha hb hab => ?_
    exact settled_of_eq (hrun run hr a (List.mem_mergeSort.1 ha) b (List.mem_mergeSort.1 hb))
      (of_decide_eq_true hab)
  · refine hcross.imp₂ (fun r r' hrecent hne a ha b hb => ?_) hdiff
    rw [List.mem_mergeSort] at ha hb
    exact settled_of_lt (hrecent a ha b hb) (hne a ha b hb)

/-- **Records with the same classes of one time and one branch are equal, once they are sorted by
recency and their ties are arranged.** -/
theorem arrangeTies_sortByRecency_eq {records records' : List Record}
    (h : ∀ a, records.filter (StableSort.tied (settled labels) a) =
      records'.filter (StableSort.tied (settled labels) a)) :
    arrangeTies labels (sortByRecency records) = arrangeTies labels (sortByRecency records') := by
  have hclass : ∀ (records : List Record) (a : Record),
      (arrangeTies labels (sortByRecency records)).filter (StableSort.tied (settled labels) a) =
        records.filter (StableSort.tied (settled labels) a) := by
    intro records a
    rw [filter_arrangeTies, filter_sortByRecency]
    · exact fun b c hb hc => (tied_settled_iff.1 hb).1.symm.trans (tied_settled_iff.1 hc).1
    · exact fun b c hb hc => (tied_settled_iff.1 hb).2.symm.trans (tied_settled_iff.1 hc).2
  refine StableSort.eq_of_filter_eq settled_refl (pairwise_arrangeTies (pairwise_sortByRecency _))
    (pairwise_arrangeTies (pairwise_sortByRecency _)) fun a => ?_
  rw [hclass, hclass, h]

end TagCatalog.Record
