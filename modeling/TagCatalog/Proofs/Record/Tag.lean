import TagCatalog.Proofs.Text.Numeral
import TagCatalog.Proofs.Text.Split
import TagCatalog.Record

/-!
# What a tag says

The last dash of a tag divides it into a time and a revision. The dash is the minus sign too, so the
time of a tag with several dashes may be negative, and it may be no numeral at all.

* `Record.Stamped`: a tag that is divided into a time and a revision;
* `Record.Says`: what a tag says;
* `Record.ofTag?_eq_some_iff`, `Record.ofTag?_eq_none_iff`: the record of a tag, and the tags that
  are skipped;
* **`Record.ofTag?_iff_convention`**: the convention of tags, in both directions.
-/

namespace TagCatalog.Record

open Text

/-- The tag is a numeral of `n`, its last dash, and a revision; `n` fits a word of 64 bits. -/
structure Stamped (tag : String) (n : Int) (revision : String) : Prop where
  divided : ∃ time : String, tag = time ++ "-" ++ revision ∧ SignedNumeral time.toList n
  undashed : '-' ∉ revision.toList
  least : -2 ^ 63 ≤ n
  greatest : n ≤ 2 ^ 63 - 1

/-- What a tag says: without a dash it has no time and no revision. -/
inductive Says (tag : String) : (seconds : Option Int) → (revision : String) → Prop
  | bare (hne : tag ≠ "") (hdash : '-' ∉ tag.toList) : Says tag none ""
  | stamped {n : Int} {revision : String} (h : Stamped tag n revision) :
    Says tag (some n) revision

variable {branch tag time revision : String} {r : Record}

theorem toList_divided (time revision : String) :
    (time ++ "-" ++ revision).toList = time.toList ++ '-' :: revision.toList := by
  rw [String.toList_append, String.toList_append, List.append_assoc]
  rfl

theorem splitLast?_divided (h : '-' ∉ revision.toList) :
    splitLast? '-' (time ++ "-" ++ revision).toList = some (time.toList, revision.toList) :=
  splitLast?_eq_some_iff.2 ⟨toList_divided time revision, h⟩

theorem ofTag?_of_bare (hne : tag ≠ "") (hdash : '-' ∉ tag.toList) :
    ofTag? branch tag = some ⟨tag, branch, "", none⟩ := by
  have hempty : tag.isEmpty = false := by rwa [← Bool.not_eq_true, String.isEmpty_iff]
  rw [ofTag?, hempty, splitLast?_eq_none hdash]
  rfl

theorem ofTag?_divided (h : '-' ∉ revision.toList) :
    ofTag? branch (time ++ "-" ++ revision) = (int64? time.toList).map fun secs =>
      ⟨time ++ "-" ++ revision, branch, revision, some secs⟩ := by
  have hempty : (time ++ "-" ++ revision).isEmpty = false := by
    rw [← Bool.not_eq_true, String.isEmpty_iff, ← String.toList_inj, toList_divided]
    exact List.append_ne_nil_of_right_ne_nil _ (List.cons_ne_nil _ _)
  simp only [ofTag?, hempty, splitLast?_divided h, String.ofList_toList]
  rfl

theorem bare_or_divided (tag : String) : tag = "" ∨ (tag ≠ "" ∧ '-' ∉ tag.toList) ∨
    ∃ time revision, tag = time ++ "-" ++ revision ∧ '-' ∉ revision.toList := by
  cases hsplit : splitLast? '-' tag.toList with
  | none =>
    by_cases hempty : tag = ""
    · exact .inl hempty
    · exact .inr (.inl ⟨hempty, splitLast?_eq_none_iff.1 hsplit⟩)
  | some parts =>
    obtain ⟨time, revision⟩ := parts
    obtain ⟨htag, hdash⟩ := splitLast?_eq_some_iff.1 hsplit
    refine .inr (.inr ⟨String.ofList time, String.ofList revision, ?_, ?_⟩)
    · rw [← String.toList_inj, toList_divided, String.toList_ofList, String.toList_ofList, htag]
    · rwa [String.toList_ofList]

/-- The record of a tag holds the tag, its branch, and what the tag says. -/
theorem ofTag?_eq_some_iff : ofTag? branch tag = some r ↔
    r.tag = tag ∧ r.branch = branch ∧ Says tag (r.seconds.map Int64.toInt) r.revision := by
  constructor
  · intro h
    obtain rfl | ⟨hne, hdash⟩ | ⟨time, revision, rfl, hdash⟩ := bare_or_divided tag
    · nomatch h
    · rw [ofTag?_of_bare hne hdash] at h
      cases h
      exact ⟨rfl, rfl, .bare hne hdash⟩
    · rw [ofTag?_divided hdash, Option.map_eq_some_iff] at h
      obtain ⟨secs, htime, rfl⟩ := h
      exact ⟨rfl, rfl, .stamped ⟨⟨time, rfl, int64?_eq_some_iff.1 htime⟩, hdash,
        secs.le_toInt, Int.le_sub_one_of_lt secs.toInt_lt⟩⟩
  · obtain ⟨tag', branch', revision, seconds⟩ := r
    rintro ⟨rfl, rfl, h⟩
    cases seconds with
    | none =>
      cases h with
      | bare hne hdash => exact ofTag?_of_bare hne hdash
    | some secs =>
      cases h with
      | stamped h =>
        obtain ⟨⟨time, htag, htime⟩, hdash, -, -⟩ := h
        dsimp only at htag hdash ⊢
        subst htag
        rw [ofTag?_divided hdash, int64?_eq_some_iff.2 htime]
        rfl

/-- A tag is skipped if it is empty, or what stands before its last dash is not the time of a
record. -/
theorem ofTag?_eq_none_iff : ofTag? branch tag = none ↔ tag = "" ∨
    ∃ time revision, tag = time ++ "-" ++ revision ∧ '-' ∉ revision.toList ∧
      ∀ n, SignedNumeral time.toList n → ¬ (-2 ^ 63 ≤ n ∧ n ≤ 2 ^ 63 - 1) := by
  constructor
  · intro h
    obtain rfl | ⟨hne, hdash⟩ | ⟨time, revision, rfl, hdash⟩ := bare_or_divided tag
    · exact .inl rfl
    · rw [ofTag?_of_bare hne hdash] at h
      nomatch h
    · rw [ofTag?_divided hdash, Option.map_eq_none_iff] at h
      exact .inr ⟨time, revision, rfl, hdash, int64?_eq_none_iff.1 h⟩
  · rintro (rfl | ⟨time, revision, rfl, hdash, htime⟩)
    · rfl
    · rw [ofTag?_divided hdash, int64?_eq_none_iff.2 htime]
      rfl

/-- **The convention of tags.** A tag has a record exactly if it says something, and the record
holds the tag, its branch and what it says. It is skipped exactly if it is empty or what stands
before its last dash is not a signed numeral that fits a word of 64 bits. Every time and every
revision without a dash are said by some tag. -/
theorem ofTag?_iff_convention (branch : String) :
    (∀ tag r, ofTag? branch tag = some r ↔
      r.tag = tag ∧ r.branch = branch ∧ Says tag (r.seconds.map Int64.toInt) r.revision) ∧
    (∀ tag, ofTag? branch tag = none ↔ tag = "" ∨
      ∃ time revision, tag = time ++ "-" ++ revision ∧ '-' ∉ revision.toList ∧
        ∀ n, SignedNumeral time.toList n → ¬ (-2 ^ 63 ≤ n ∧ n ≤ 2 ^ 63 - 1)) ∧
    ∀ (secs : Int64) (revision : String), '-' ∉ revision.toList →
      ofTag? branch (toString secs ++ "-" ++ revision) =
        some ⟨toString secs ++ "-" ++ revision, branch, revision, some secs⟩ := by
  refine ⟨fun tag r => ofTag?_eq_some_iff, fun tag => ofTag?_eq_none_iff,
    fun secs revision hdash => ?_⟩
  have hsecs : int64? (toString secs).toList = some secs :=
    int64?_eq_some_iff.2 (signedNumeral_toString secs.toInt)
  rw [ofTag?_divided hdash, hsecs]
  rfl

/-- The least time, whose numeral begins with a dash of its own. -/
theorem ofTag?_iff_convention_least : '-' ∉ "3f2a9c1".toList ∧
    ofTag? "main" "-9223372036854775808-3f2a9c1" =
      some ⟨"-9223372036854775808-3f2a9c1", "main", "3f2a9c1", some Int64.minValue⟩ := by
  have hdash : '-' ∉ "3f2a9c1".toList := by decide
  exact ⟨hdash, (ofTag?_iff_convention "main").2.2 Int64.minValue "3f2a9c1" hdash⟩

end TagCatalog.Record
