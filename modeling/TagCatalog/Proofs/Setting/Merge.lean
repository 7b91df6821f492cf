import Mathlib.Data.List.TakeDrop
import Mathlib.Data.List.TakeWhile
import TagCatalog.Proofs.Text.Split
import TagCatalog.Setting.Path

/-!
# Merging settings

What stands under a name when settings are put into a table, merged into it, or laid over it.

* `Setting.get_replaceIn`, `Setting.get_put`: one name has the new setting, the others keep theirs;
* `Setting.names_replaceIn`: a name stands in a table once;
* `Setting.onto`, `Setting.get_merge`, **`Setting.get_mergeAll`**: each entry of a table meets only
  what stood under its name;
* `IsIdentifier`, **`Setting.layer?_of_identifiers`**: a layer of plain names is merged, as none of
  them is a longer path.
-/

namespace TagCatalog

/-- A plain name: lower-case letters, digits and underscores. -/
def IsIdentifier (name : String) : Prop :=
  name ≠ "" ∧ ∀ c ∈ name.toList, c.isLower ∨ c.isDigit ∨ c = '_'

instance (name : String) : Decidable (IsIdentifier name) := inferInstanceAs (Decidable (_ ∧ _))

namespace Setting

variable {s v : Setting} {m n : String} {es ds : List (String × Setting)}

/-! ## Putting -/

theorem get_table_nil : (table []).get m = none := rfl

theorem get_table_cons (e : String × Setting) :
    (table (e :: es)).get m = if e.1 = m then some e.2 else (table es).get m := by
  by_cases h : e.1 = m <;> simp [get, entries, h]

theorem get_eq_none_iff : (table es).get m = none ↔ m ∉ es.map (·.1) := by
  induction es with
  | nil => exact ⟨fun _ => List.not_mem_nil, fun _ => rfl⟩
  | cons e es ih =>
    rw [get_table_cons, List.map_cons, List.mem_cons, not_or]
    by_cases heq : e.1 = m
    · rw [if_pos heq]
      exact ⟨fun h => (nomatch h), fun h => absurd heq.symm h.1⟩
    · rw [if_neg heq, ih]
      exact (and_iff_right fun h => heq h.symm).symm

theorem get_replaceIn :
    (table (replaceIn n v es)).get m = if n = m then some v else (table es).get m := by
  induction es with
  | nil => rw [replaceIn, get_table_cons]
  | cons e es ih =>
    rw [replaceIn]
    split
    · next heq =>
      rw [get_table_cons, get_table_cons, beq_iff_eq.mp heq]
      split <;> rfl
    · next hne =>
      rw [get_table_cons, get_table_cons, ih]
      have hne : e.1 ≠ n := fun h => hne (beq_iff_eq.mpr h)
      by_cases heq : e.1 = m
      · rw [if_pos heq, if_pos heq, if_neg fun h => hne (heq.trans h.symm)]
      · rw [if_neg heq, if_neg heq]

theorem get_put : (s.put n v).get m = if n = m then some v else s.get m := get_replaceIn

/-- The names of a table with another setting: the same, or one more at their end. -/
theorem names_replaceIn :
    (replaceIn n v es).map (·.1) =
      if n ∈ es.map (·.1) then es.map (·.1) else es.map (·.1) ++ [n] := by
  induction es with
  | nil => rfl
  | cons e es ih =>
    rw [replaceIn]
    by_cases heq : e.1 = n
    · simp [heq]
    · have hne : ¬ n = e.1 := fun h => heq h.symm
      rw [if_neg (by simpa using heq), List.map_cons, ih]
      by_cases hmem : n ∈ es.map (·.1)
      · rw [if_pos hmem, List.map_cons, if_pos (List.mem_cons_of_mem _ hmem)]
      · have hnew : n ∉ e.1 :: es.map (·.1) := by simpa [hne] using hmem
        rw [if_neg hmem, List.map_cons, if_neg hnew, List.cons_append]

theorem nodup_replaceIn (h : (es.map (·.1)).Nodup) : ((replaceIn n v es).map (·.1)).Nodup := by
  rw [names_replaceIn]
  split
  · exact h
  · next hnew =>
    refine List.nodup_append.mpr ⟨h, List.pairwise_singleton _ n, fun a ha b hb => ?_⟩
    obtain rfl := List.mem_singleton.mp hb
    exact fun heq => hnew (heq ▸ ha)

theorem mem_replaceIn {e : String × Setting} (h : e ∈ replaceIn n v es) :
    e = (n, v) ∨ e ∈ es := by
  induction es with
  | nil => exact .inl (List.mem_singleton.mp h)
  | cons d es ih =>
    rw [replaceIn] at h
    split at h
    · exact (List.mem_cons.mp h).imp_right (List.mem_cons_of_mem _)
    · obtain rfl | h := List.mem_cons.mp h
      · exact .inr List.mem_cons_self
      · exact (ih h).imp_right (List.mem_cons_of_mem _)

/-! ## Merging -/

/-- What stands under a name when a setting is merged into what stood there. -/
def onto (value : Setting) (old : Option Setting) : Setting :=
  match value with
  | table es => mergeAll es (old.getD empty)
  | value => value

theorem merge_eq (s : Setting) (n : String) (v : Setting) :
    s.merge n v = s.put (lowerName n) (v.onto (s.get (lowerName n))) := by
  cases v <;> simp only [merge, onto]

theorem get_merge :
    (s.merge n v).get m = if lowerName n = m then some (v.onto (s.get m)) else s.get m := by
  rw [merge_eq, get_put]
  split
  · next heq => rw [heq]
  · rfl

theorem exists_mergeAll_table (es ds : List (String × Setting)) :
    ∃ ts, mergeAll es (table ds) = table ts := by
  induction es generalizing ds with
  | nil => exact ⟨ds, by rw [mergeAll]⟩
  | cons e es ih =>
    rw [mergeAll, merge_eq]
    exact ih _

/-- **Merging is done name by name.** Where an entry has the name, it is merged into what stood
there; everything else stays. -/
theorem get_mergeAll (hlower : ∀ e ∈ es, lowerName e.1 = e.1) (hnames : (es.map (·.1)).Nodup) :
    (mergeAll es s).get m =
      match (table es).get m with
      | some v => some (v.onto (s.get m))
      | none => s.get m := by
  induction es generalizing s with
  | nil => rw [mergeAll, get_table_nil]
  | cons e es ih =>
    obtain ⟨hnew, hnames⟩ := List.nodup_cons.mp hnames
    rw [mergeAll, ih (fun d hd => hlower d (List.mem_cons_of_mem _ hd)) hnames, get_merge,
      hlower e List.mem_cons_self, get_table_cons]
    by_cases heq : e.1 = m
    · -- the entries behind have other names, so the merged one is the last word
      rw [if_pos heq, if_pos heq, get_eq_none_iff.mpr (heq ▸ hnew)]
    · rw [if_neg heq, if_neg heq]

/-! ## Layers -/

theorem lowerChar_of_not_isUpper {c : Char} (h : c.isUpper = false) (hne : c ≠ '\u212A') :
    lowerChar c = c := by
  rw [lowerChar, if_neg (by simpa using hne)]
  unfold Char.toLower
  unfold Char.isUpper at h
  exact dif_neg (by simpa using h)

end Setting

namespace IsIdentifier

variable {name : String} {c : Char}

theorem not_isUpper (h : IsIdentifier name) (hc : c ∈ name.toList) : c.isUpper = false := by
  have hranges := h.2 c hc
  unfold Char.isLower at hranges
  unfold Char.isUpper
  simp only [Char.isDigit, Bool.and_eq_true, decide_eq_true_eq, UInt32.le_iff_toNat_le,
    ge_iff_le] at hranges
  rw [decide_eq_false_iff_not, ge_iff_le, UInt32.le_iff_toNat_le, UInt32.le_iff_toNat_le]
  obtain hlower | hdigit | rfl := hranges
  · have : 'Z'.val.toNat < 'a'.val.toNat := by decide
    omega
  · have : '9'.val.toNat < 'A'.val.toNat := by decide
    omega
  · decide

theorem isNameChar (h : IsIdentifier name) (hc : c ∈ name.toList) : Path.isNameChar c := by
  unfold Path.isNameChar Char.isAlphanum Char.isAlpha
  obtain hlower | hdigit | rfl := h.2 c hc
  · simp [hlower]
  · simp [hdigit]
  · decide

theorem lowerName_eq (h : IsIdentifier name) : Setting.lowerName name = name := by
  have hsame : ∀ c ∈ name.toList, Setting.lowerChar c = c := fun c hc =>
    Setting.lowerChar_of_not_isUpper (h.not_isUpper hc) (by
      rintro rfl
      exact absurd (h.isNameChar hc) (by decide))
  rw [Setting.lowerName, (List.map_congr_left hsame).trans (List.map_id _), String.ofList_toList]

theorem ofText_eq (h : IsIdentifier name) :
    Path.ofText name = [.name name] := by
  have hspan : name.toList.span Path.isNameChar = (name.toList, []) := by
    rw [List.span_eq_takeWhile_dropWhile, List.takeWhile_eq_self_iff.mpr fun c => h.isNameChar,
      List.dropWhile_eq_nil_iff.mpr fun c => h.isNameChar]
  have hne : name.toList ≠ [] := fun hnil => h.1 (String.toList_eq_nil_iff.mp hnil)
  have hfirst : Path.readName? name.toList = some (.name name, []) := by
    rw [Path.readName?, hspan]
    simp only [if_neg hne, String.ofList_toList]
  rw [Path.ofText, Path.parse?, hfirst]
  rfl

end IsIdentifier

namespace Setting

variable {s : Setting} {es : List (String × Setting)}

theorem layer?_of_identifiers (h : ∀ e ∈ es, IsIdentifier e.1) :
    s.layer? es = some (mergeAll es s) := by
  induction es generalizing s with
  | nil => rw [mergeAll]; rfl
  | cons e es ih =>
    have hinsert : s.insert? e.1 e.2 = some (s.merge e.1 e.2) := by
      rw [insert?, (h e List.mem_cons_self).ofText_eq, assign?]
    rw [layer?, List.foldlM_cons, hinsert, Option.bind_eq_bind, Option.bind_some, mergeAll]
    exact ih fun d hd => h d (List.mem_cons_of_mem _ hd)

end Setting

end TagCatalog
