import Mathlib.Data.List.Basic
import TagCatalog.Record

/-!
# The order of records

Sorting by recency is a stable sort. A stable sort is known by what it does to the classes of tied
elements: it keeps each of them in its order, and a sorted list is determined by its classes.

* `StableSort.filter_mergeSort`: elements that are tied keep their order;
* **`StableSort.eq_of_filter_eq`**: sorted lists with the same classes are equal;
* `Record.SortedByRecency`: what sorting by recency has to give;
* **`Record.sortedByRecency_iff`**: it is what `Record.sortByRecency` gives, and nothing else;
* **`Record.sortByRecency_determined`**: the sort in terms of the times, and sorting twice or in
  parts;
* `Record.mem_ofTags`: the label and the tag of a record.
-/

namespace TagCatalog

namespace StableSort

variable {α : Type} {le : α → α → Bool}

/-- Elements that all compare to each other keep their order in a merge sort. -/
theorem filter_mergeSort (trans : ∀ a b c, le a b → le b c → le a c)
    (total : ∀ a b, le a b || le b a) {p : α → Bool} (hp : ∀ a b, p a → p b → le a b)
    (l : List α) : (l.mergeSort le).filter p = l.filter p := by
  have hpair : (l.filter p).Pairwise (le · ·) :=
    List.pairwise_of_forall_mem_list fun a ha b hb =>
      hp a b (List.mem_filter.1 ha).2 (List.mem_filter.1 hb).2
  have hsub : (l.filter p).Sublist ((l.mergeSort le).filter p) := by
    have h := (List.sublist_mergeSort trans total hpair List.filter_sublist).filter p
    rwa [List.filter_filter, funext fun a => Bool.and_self (p a)] at h
  have hlen : (l.filter p).length = ((l.mergeSort le).filter p).length :=
    ((List.mergeSort_perm l le).filter p).length_eq.symm
  exact (hsub.eq_of_length hlen).symm

/-- Two elements that neither comes before. -/
def tied (le : α → α → Bool) (a b : α) : Bool := le a b && le b a

/-- **A sorted list is determined by its classes of tied elements, each in its order.** -/
theorem eq_of_filter_eq (refl : ∀ a, le a a) {l l' : List α} (h : l.Pairwise (le · ·))
    (h' : l'.Pairwise (le · ·)) (hf : ∀ a, l.filter (tied le a) = l'.filter (tied le a)) :
    l = l' := by
  have self : ∀ a, tied le a a := fun a => by rw [tied, refl a, Bool.and_self]
  have mem : ∀ {k k' : List α}, (∀ a, k.filter (tied le a) = k'.filter (tied le a)) →
      ∀ a ∈ k, a ∈ k' := fun hk a ha =>
    (List.mem_filter.1 (hk a ▸ List.mem_filter.2 ⟨ha, self a⟩)).1
  induction l generalizing l' with
  | nil =>
    cases l' with
    | nil => rfl
    | cons b l' => exact absurd (mem (fun a => (hf a).symm) b List.mem_cons_self) List.not_mem_nil
  | cons a l ih =>
    cases l' with
    | nil => exact absurd (mem hf a List.mem_cons_self) List.not_mem_nil
    | cons b l' =>
      rw [List.pairwise_cons] at h h'
      -- the heads are tied, so they are the heads of one class
      have hab : le a b := by
        rcases List.mem_cons.1 (mem (fun a => (hf a).symm) b List.mem_cons_self) with rfl | hb
        · exact refl b
        · exact h.1 b hb
      have hba : le b a := by
        rcases List.mem_cons.1 (mem hf a List.mem_cons_self) with rfl | ha
        · exact refl a
        · exact h'.1 a ha
      have heq : a = b := by
        have hc := hf a
        rw [List.filter_cons_of_pos (self a),
          List.filter_cons_of_pos (by rw [tied, hab, hba, Bool.and_self])] at hc
        exact (List.cons.inj hc).1
      subst heq
      refine congrArg (a :: ·) (ih h.2 h'.2 fun c => ?_)
      have hc := hf c
      by_cases hca : tied le c a
      · rw [List.filter_cons_of_pos hca, List.filter_cons_of_pos hca] at hc
        exact (List.cons.inj hc).2
      · rwa [List.filter_cons_of_neg hca, List.filter_cons_of_neg hca] at hc

end StableSort

namespace Record

theorem recent_refl (s : Option Int64) : recent s s := by
  cases s with
  | none => rfl
  | some s => exact decide_eq_true (Int64.le_refl s)

theorem recent_trans {s t u : Option Int64} (h : recent s t) (h' : recent t u) : recent s u := by
  cases u with
  | none => cases s <;> rfl
  | some u =>
    cases t with
    | none => exact absurd h' (by simp [recent])
    | some t =>
      cases s with
      | none => exact absurd h (by simp [recent])
      | some s =>
        exact decide_eq_true (Int64.le_trans (of_decide_eq_true h') (of_decide_eq_true h))

theorem recent_total (s t : Option Int64) : recent s t || recent t s := by
  cases s with
  | none => cases t <;> rfl
  | some s =>
    cases t with
    | none => rfl
    | some t =>
      rw [Bool.or_eq_true]
      exact (Int64.le_total t s).imp decide_eq_true decide_eq_true

theorem recent_antisymm {s t : Option Int64} (h : recent s t) (h' : recent t s) : s = t := by
  cases s with
  | none =>
    cases t with
    | none => rfl
    | some t => exact absurd h (by simp [recent])
  | some s =>
    cases t with
    | none => exact absurd h' (by simp [recent])
    | some t => exact congrArg some (Int64.le_antisymm (of_decide_eq_true h') (of_decide_eq_true h))

/-- The records in an order from the most recent on, none before a more recent one; records of the
same time as they were, and those without a time behind all others. -/
structure SortedByRecency (records sorted : List Record) : Prop where
  perm : sorted.Perm records
  ordered : sorted.Pairwise fun a b => recent a.seconds b.seconds
  stable : ∀ s, sorted.filter (·.seconds = s) = records.filter (·.seconds = s)

theorem pairwise_sortByRecency (records : List Record) :
    (sortByRecency records).Pairwise fun a b => recent a.seconds b.seconds := by
  rw [sortByRecency]
  refine List.pairwise_mergeSort (fun a b c hab hbc => ?_) (fun a b => ?_) records
  · exact recent_trans hab hbc
  · exact recent_total a.seconds b.seconds

theorem filter_sortByRecency {p : Record → Bool}
    (hp : ∀ a b, p a → p b → a.seconds = b.seconds) (records : List Record) :
    (sortByRecency records).filter p = records.filter p := by
  rw [sortByRecency]
  refine StableSort.filter_mergeSort (fun a b c hab hbc => ?_) (fun a b => ?_)
    (fun a b ha hb => ?_) records
  · exact recent_trans hab hbc
  · exact recent_total a.seconds b.seconds
  · rw [hp a b ha hb]
    exact recent_refl _

theorem sortedByRecency_sortByRecency (records : List Record) :
    SortedByRecency records (sortByRecency records) where
  perm := List.mergeSort_perm ..
  ordered := pairwise_sortByRecency records
  stable := fun _ => filter_sortByRecency (fun _ _ ha hb =>
    (of_decide_eq_true ha).trans (of_decide_eq_true hb).symm) records

/-- **Sorting by recency gives the records in their order of recency, and no other list is.** -/
theorem sortedByRecency_iff {records sorted : List Record} :
    SortedByRecency records sorted ↔ sorted = sortByRecency records := by
  constructor
  · intro h
    have hsort := sortedByRecency_sortByRecency records
    refine StableSort.eq_of_filter_eq (fun a => recent_refl a.seconds) h.ordered hsort.ordered
      fun a => ?_
    have htied : StableSort.tied (fun a b : Record => recent a.seconds b.seconds) a =
        fun b => decide (b.seconds = a.seconds) := by
      funext b
      rw [StableSort.tied, Bool.eq_iff_iff, Bool.and_eq_true, decide_eq_true_iff]
      constructor
      · rintro ⟨hab, hba⟩
        exact recent_antisymm hba hab
      · intro heq
        rw [heq]
        exact ⟨recent_refl _, recent_refl _⟩
    rw [htied, h.stable, hsort.stable]
  · rintro rfl
    exact sortedByRecency_sortByRecency records

/-! ## Sorting what is sorted -/

theorem recent_iff {s t : Option Int64} :
    recent s t ↔ ∀ n ∈ t, ∃ m ∈ s, n.toInt ≤ m.toInt := by
  cases t with
  | none => simp [recent]
  | some n =>
    cases s with
    | none => simp [recent]
    | some m => simp [recent, Int64.le_iff_toInt_le]

theorem sortByRecency_of_ordered {records : List Record}
    (h : records.Pairwise fun a b => recent a.seconds b.seconds) :
    sortByRecency records = records :=
  (sortedByRecency_iff.1 ⟨.refl records, h, fun _ => rfl⟩).symm

theorem sortByRecency_append (records others : List Record) :
    sortByRecency (sortByRecency records ++ sortByRecency others) =
      sortByRecency (records ++ others) := by
  have hparts := sortedByRecency_sortByRecency (sortByRecency records ++ sortByRecency others)
  have hleft := sortedByRecency_sortByRecency records
  have hright := sortedByRecency_sortByRecency others
  have hwhole : SortedByRecency (records ++ others)
      (sortByRecency (sortByRecency records ++ sortByRecency others)) := by
    refine ⟨hparts.perm.trans (hleft.perm.append hright.perm), hparts.ordered, fun s => ?_⟩
    calc (sortByRecency (sortByRecency records ++ sortByRecency others)).filter (·.seconds = s)
        = (sortByRecency records ++ sortByRecency others).filter (·.seconds = s) :=
          hparts.stable s
      _ = (sortByRecency records).filter (·.seconds = s) ++
            (sortByRecency others).filter (·.seconds = s) := List.filter_append ..
      _ = records.filter (·.seconds = s) ++ others.filter (·.seconds = s) := by
          rw [hleft.stable, hright.stable]
      _ = (records ++ others).filter (·.seconds = s) := (List.filter_append ..).symm
  exact sortedByRecency_iff.1 hwhole

/-- **Sorting by recency is determined by what it does**: it gives the one list that holds the same
records, each time no later than the one before and those without a time behind all others, with
the records of each time, and those of none, in the order they had. So sorting again changes
nothing, and neither does sorting parts of a list first. -/
theorem sortByRecency_determined (records : List Record) :
    (∀ sorted, sorted = sortByRecency records ↔
      sorted.Perm records ∧
      (sorted.Pairwise fun a b => ∀ n ∈ b.seconds, ∃ m ∈ a.seconds, n.toInt ≤ m.toInt) ∧
      ∀ s, sorted.filter (·.seconds = s) = records.filter (·.seconds = s)) ∧
    sortByRecency (sortByRecency records) = sortByRecency records ∧
    ∀ others, sortByRecency (records ++ others) =
      sortByRecency (sortByRecency records ++ sortByRecency others) := by
  refine ⟨fun sorted => ?_, ?_, fun others => ?_⟩
  · rw [← sortedByRecency_iff]
    simp only [← recent_iff]
    constructor
    · intro h
      exact ⟨h.perm, h.ordered, h.stable⟩
    · rintro ⟨hperm, hordered, hstable⟩
      exact ⟨hperm, hordered, hstable⟩
  · exact sortByRecency_of_ordered (pairwise_sortByRecency records)
  · exact (sortByRecency_append records others).symm

/-! ## The records of a listing -/

theorem ofTag?_eq_some {branch tag : String} {r : Record} (h : ofTag? branch tag = some r) :
    r.branch = branch ∧ r.tag = tag := by
  rw [ofTag?] at h
  split at h
  · nomatch h
  · split at h
    · cases h
      exact ⟨rfl, rfl⟩
    · obtain ⟨_, _, rfl⟩ := Option.map_eq_some_iff.1 h
      exact ⟨rfl, rfl⟩

theorem mem_ofTags {branch : String} {tags : List String} {r : Record}
    (h : r ∈ ofTags branch tags) : r.branch = branch ∧ r.tag ∈ tags := by
  obtain ⟨tag, htag, hr⟩ := List.mem_filterMap.1 h
  obtain ⟨hb, rfl⟩ := ofTag?_eq_some hr
  exact ⟨hb, htag⟩

end Record

end TagCatalog
