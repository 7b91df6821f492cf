import TagCatalog.Proofs.Calendar.Time
import TagCatalog.Proofs.Record.Recency

/-!
# The dates of sorted records

Records are sorted by their raw times, and shown with dates of the calendar. The dates agree with the
order: the records that have one stand together, the later dates first. Before them stand only
records of times too late for a date, and behind them those of times too early, or of none.

* `eq_filter_append`: a sorted list begins with the elements that come early;
* `Record.lastModified_eq_some_iff`, `Record.lastModified_eq_none_iff`: the times that have a date;
* `Record.isLate`, `Record.fields_of_recent`: late records, and the dates of two records in order;
* **`Record.lastModified_sortByRecency`**: the dates of sorted records.
-/

namespace TagCatalog

/-- If whatever stands before an element with a property has it, too, then the elements with the
property come first. -/
theorem eq_filter_append {α : Type} {p : α → Bool} {l : List α}
    (h : l.Pairwise fun a b => p b → p a) : l = l.filter p ++ l.filter (!p ·) := by
  induction l with
  | nil => rfl
  | cons a l ih =>
    rw [List.pairwise_cons] at h
    have hrest := ih h.2
    by_cases ha : p a
    · rw [List.filter_cons_of_pos ha, List.filter_cons_of_neg (by simpa using ha),
        List.cons_append, ← hrest]
    · have hnone : l.filter p = [] := List.filter_eq_nil_iff.2 fun b hb hpb => ha (h.1 b hb hpb)
      rw [hnone, List.nil_append] at hrest
      rw [List.filter_cons_of_neg ha, List.filter_cons_of_pos (by simpa using ha), hnone,
        List.nil_append, ← hrest]

namespace Record

open CivilTime

variable {r : Record} {t : CivilTime}

theorem lastModified_eq_some_iff : r.lastModified = some t ↔
    ∃ s ∈ r.seconds, firstSecond ≤ s.toInt ∧ s.toInt ≤ lastSecond ∧ ofSeconds s.toInt = t := by
  rw [lastModified, Option.bind_eq_some_iff]
  simp only [ofSeconds?, Option.mem_def]
  refine exists_congr fun s => and_congr_right fun _ => ?_
  split <;> simp_all

theorem lastModified_eq_none_iff : r.lastModified = none ↔
    ∀ s ∈ r.seconds, s.toInt < firstSecond ∨ lastSecond < s.toInt := by
  rw [lastModified, Option.bind_eq_none_iff]
  refine forall_congr' fun s => forall_congr' fun _ => ?_
  rw [ofSeconds?]
  split
  · simp
    omega
  · simp
    omega

/-- The record has a time too late for a date. -/
def isLate (r : Record) : Bool :=
  match r.seconds with
  | some s => lastSecond < s.toInt
  | none => false

theorem isLate_iff : r.isLate ↔ ∃ s ∈ r.seconds, lastSecond < s.toInt := by
  rw [isLate]
  cases r.seconds <;> simp

theorem isLate_of_recent {r' : Record} (h : recent r.seconds r'.seconds) (hlate : r'.isLate) :
    r.isLate := by
  obtain ⟨n, hn, hlast⟩ := isLate_iff.1 hlate
  obtain ⟨m, hm, hle⟩ := recent_iff.1 h n hn
  exact isLate_iff.2 ⟨m, hm, by omega⟩

theorem isSome_lastModified_of_recent {r' : Record} (h : recent r.seconds r'.seconds)
    (hlate : ¬ r.isLate) (hdate : r'.lastModified.isSome) : r.lastModified.isSome := by
  obtain ⟨t, ht⟩ := Option.isSome_iff_exists.1 hdate
  obtain ⟨n, hn, hfirst, -, -⟩ := lastModified_eq_some_iff.1 ht
  obtain ⟨m, hm, hle⟩ := recent_iff.1 h n hn
  have hlast : ¬ lastSecond < m.toInt := fun hlt => hlate (isLate_iff.2 ⟨m, hm, hlt⟩)
  exact Option.isSome_iff_exists.2 ⟨_, lastModified_eq_some_iff.2 ⟨m, hm, by omega, by omega, rfl⟩⟩

/-- Dates in the order of the times that they are shown for. -/
theorem fields_of_recent {r' : Record} {u : CivilTime} (h : recent r.seconds r'.seconds)
    (ht : r.lastModified = some t) (hu : r'.lastModified = some u) :
    u.fields ≤ t.fields ∧ (u.fields = t.fields ↔ r'.seconds = r.seconds) := by
  obtain ⟨m, hm, -, -, rfl⟩ := lastModified_eq_some_iff.1 ht
  obtain ⟨n, hn, -, -, rfl⟩ := lastModified_eq_some_iff.1 hu
  obtain ⟨hvalid, hcount⟩ := unixSeconds_ofSeconds m.toInt
  obtain ⟨hvalid', hcount'⟩ := unixSeconds_ofSeconds n.toInt
  obtain ⟨m', hm', hle⟩ := recent_iff.1 h n hn
  obtain rfl : m = m' := Option.mem_unique hm hm'
  rw [fields_le_iff hvalid' hvalid, fields_eq_iff hvalid' hvalid, hcount, hcount',
    Option.mem_def.1 hm, Option.mem_def.1 hn, Option.some.injEq, Int64.toInt_inj]
  exact ⟨hle, Iff.rfl⟩

/-- **The dates of sorted records.** The records with a date are one block. Their dates are dates of
the calendar and count back to the times of the records; no date comes after a later one, and two are
equal exactly if the times are. All records before the block have times behind the last that has a
date, and all records behind it have times before the first one, or none. -/
theorem lastModified_sortByRecency (records : List Record) :
    ∃ late dated early, sortByRecency records = late ++ dated ++ early ∧
      (∀ r ∈ late, r.lastModified = none ∧ ∃ s ∈ r.seconds, 8210266876799 < s.toInt) ∧
      (∀ r ∈ dated, ∃ t ∈ r.lastModified, ∃ s ∈ r.seconds, t.Valid ∧ t.unixSeconds = s.toInt) ∧
      (dated.Pairwise fun a b => ∀ t ∈ a.lastModified, ∀ u ∈ b.lastModified,
        u.fields ≤ t.fields ∧ (u.fields = t.fields ↔ b.seconds = a.seconds)) ∧
      ∀ r ∈ early, r.lastModified = none ∧ ∀ s ∈ r.seconds, s.toInt < -8334601228800 := by
  have hsorted := pairwise_sortByRecency records
  generalize sortByRecency records = sorted at *
  have hlate := eq_filter_append (hsorted.imp fun h hlate => isLate_of_recent h hlate)
  have hrest : (sorted.filter (!isLate ·)).Pairwise fun a b => recent a.seconds b.seconds :=
    hsorted.filter _
  have hdated := eq_filter_append (p := fun r => r.lastModified.isSome)
    (hrest.imp_of_mem fun ha _ h hdate => isSome_lastModified_of_recent h
      (by simpa using (List.mem_filter.1 ha).2) hdate)
  rw [hdated, ← List.append_assoc] at hlate
  refine ⟨_, _, _, hlate, fun r hr => ?_, fun r hr => ?_, ?_, fun r hr => ?_⟩
  · obtain ⟨s, hs, hlast⟩ := isLate_iff.1 (List.mem_filter.1 hr).2
    refine ⟨lastModified_eq_none_iff.2 fun s' hs' => ?_, s, hs, hlast⟩
    obtain rfl := Option.mem_unique hs hs'
    exact .inr hlast
  · obtain ⟨t, ht⟩ := Option.isSome_iff_exists.1 (List.mem_filter.1 hr).2
    obtain ⟨s, hs, -, -, rfl⟩ := lastModified_eq_some_iff.1 ht
    obtain ⟨hvalid, hcount⟩ := unixSeconds_ofSeconds s.toInt
    exact ⟨_, ht, s, hs, hvalid, hcount⟩
  · exact (hrest.filter _).imp fun h t ht u hu => fields_of_recent h ht hu
  · obtain ⟨hmem, hnone⟩ := List.mem_filter.1 hr
    have hnone : r.lastModified = none := by simpa using hnone
    have hearly : ¬ r.isLate := by simpa using (List.mem_filter.1 hmem).2
    refine ⟨hnone, fun s hs => ?_⟩
    obtain hfirst | hlast := lastModified_eq_none_iff.1 hnone s hs
    · exact hfirst
    · exact absurd (isLate_iff.2 ⟨s, hs, hlast⟩) hearly

end Record

end TagCatalog
