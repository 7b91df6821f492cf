import TagCatalog.Proofs.Setting.Merge
import TagCatalog.Setting.Yaml

/-!
# Settings of YAML nodes

* `Yaml.Node.same_iff`: the comparison of nodes is their equality;
* `Yaml.Node.Readable`, **`Setting.exists_ofNode_iff`**: the nodes that have settings;
* `Yaml.valueOf?`: the value of a name in a mapping;
* `Setting.ofEntries_cons`, **`Setting.get_ofEntries`**: the settings of a mapping stand under the
  names of their values.
-/

namespace TagCatalog

/-! ## Equality of nodes -/

namespace Yaml.Node

mutual

theorem same_iff : ∀ a b : Node, a.same b = true ↔ a = b
  | .null, b | .bad, b | .boolean _, b | .integer _, b | .real _, b | .text _, b => by
    cases b <;> simp [same]
  | .list as, b => by
    cases b with
    | list bs => rw [same, sameItems_iff as bs, list.injEq]
    | _ => simp [same]
  | .mapping as, b => by
    cases b with
    | mapping bs => rw [same, sameEntries_iff as bs, mapping.injEq]
    | _ => simp [same]

theorem sameItems_iff : ∀ as bs : List Node, sameItems as bs = true ↔ as = bs
  | [], bs => by cases bs <;> simp [sameItems]
  | a :: as, bs => by
    cases bs with
    | nil => simp [sameItems]
    | cons b bs =>
      rw [sameItems, Bool.and_eq_true, same_iff a b, sameItems_iff as bs, List.cons.injEq]

theorem sameEntries_iff : ∀ as bs : List (Node × Node), sameEntries as bs = true ↔ as = bs
  | [], bs => by cases bs <;> simp [sameEntries]
  | (k, v) :: as, bs => by
    cases bs with
    | nil => simp [sameEntries]
    | cons b bs =>
      obtain ⟨l, w⟩ := b
      rw [sameEntries, Bool.and_eq_true, Bool.and_eq_true, same_iff k l, same_iff v w,
        sameEntries_iff as bs, List.cons.injEq, Prod.mk.injEq]

end

instance : DecidableEq Node := fun a b => decidable_of_iff _ (same_iff a b)

/-! ## Readable nodes -/

/-- A node that has settings: its numbers have values, and the keys of its mappings are names. -/
inductive Readable : Node → Prop
  | null : Readable .null
  | bad : Readable .bad
  | boolean (b : Bool) : Readable (.boolean b)
  | integer (n : Int64) : Readable (.integer n)
  | text (s : String) : Readable (.text s)
  | real {s : String} (h : (Double.ofText? s.toList).isSome) : Readable (.real s)
  | list {ns : List Node} (h : ∀ n ∈ ns, Readable n) : Readable (.list ns)
  | mapping {es : List (Node × Node)} (names : ∀ e ∈ es, (Setting.nameOf? e.1).isSome)
      (values : ∀ e ∈ es, Readable e.2) : Readable (.mapping es)

/-- A value that is no list and no mapping. -/
def IsScalar : Node → Prop
  | .list _ | .mapping _ => False
  | _ => True

instance : DecidablePred IsScalar
  | .list _ | .mapping _ => inferInstanceAs (Decidable False)
  | .null | .boolean _ | .integer _ | .real _ | .text _ | .bad => inferInstanceAs (Decidable True)

end Yaml.Node

/-- The value of a name in a mapping; of several, the last one. -/
def Yaml.valueOf? (name : String) (es : List (Yaml.Node × Yaml.Node)) : Option Yaml.Node :=
  (es.reverse.find? fun e => Setting.nameOf? e.1 == some name).map (·.2)

namespace Setting

open Yaml

variable {n : Node} {v : Setting} {m : String} {e : Node × Node} {es : List (Node × Node)}
  {done rs : List (String × Setting)}

theorem ofNode_list {ns : List Node} :
    ofNode (.list ns) = .ok v ↔ ∃ ss, ofItems ns = .ok ss ∧ v = list ss := by
  rw [ofNode]
  cases ofItems ns <;> simp [Except.map, eq_comm]

theorem ofNode_mapping :
    ofNode (.mapping es) = .ok v ↔ ∃ rs, ofEntries es [] = .ok rs ∧ v = table rs := by
  rw [ofNode]
  cases ofEntries es [] <;> simp [Except.map, eq_comm]

theorem ofItems_cons {ns : List Node} {ss : List Setting} :
    ofItems (n :: ns) = .ok ss ↔
      ∃ s rest, ofNode n = .ok s ∧ ofItems ns = .ok rest ∧ ss = s :: rest := by
  rw [ofItems]
  cases hs : ofNode n with
  | error fault => simp [bind, Except.bind]
  | ok s =>
    cases hrest : ofItems ns with
    | error fault => simp [bind, Except.bind]
    | ok rest => simp [bind, Except.bind, pure, Except.pure, eq_comm]

theorem ofEntries_cons :
    ofEntries (e :: es) done = .ok rs ↔
      ∃ name s, nameOf? e.1 = some name ∧ ofNode e.2 = .ok s ∧
        ofEntries es (replaceIn name s done) = .ok rs := by
  rw [ofEntries]
  cases hname : nameOf? e.1 with
  | none => simp
  | some name =>
    cases hs : ofNode e.2 with
    | error fault => simp [bind, Except.bind]
    | ok s => simp [bind, Except.bind]

mutual

/-- **The nodes that have settings.** -/
theorem exists_ofNode_iff : ∀ n : Node, (∃ s, ofNode n = .ok s) ↔ n.Readable
  | .null => ⟨fun _ => .null, fun _ => ⟨_, rfl⟩⟩
  | .bad => ⟨fun _ => .bad, fun _ => ⟨_, rfl⟩⟩
  | .boolean b => ⟨fun _ => .boolean b, fun _ => ⟨_, rfl⟩⟩
  | .integer n => ⟨fun _ => .integer n, fun _ => ⟨_, rfl⟩⟩
  | .text s => ⟨fun _ => .text s, fun _ => ⟨_, rfl⟩⟩
  | .real s => by
    rw [ofNode]
    cases hx : Double.ofText? s.toList with
    | some x => exact ⟨fun _ => .real (by rw [hx]; rfl), fun _ => ⟨_, rfl⟩⟩
    | none =>
      refine ⟨fun ⟨_, h⟩ => (nomatch h), fun hreadable => ?_⟩
      cases hreadable with
      | real hvalue => rw [hx] at hvalue; nomatch hvalue
  | .list ns => by
    simp only [ofNode_list]
    constructor
    · rintro ⟨_, ss, hss, -⟩
      exact .list ((exists_ofItems_iff ns).mp ⟨ss, hss⟩)
    · intro hreadable
      cases hreadable with
      | list h =>
        obtain ⟨ss, hss⟩ := (exists_ofItems_iff ns).mpr h
        exact ⟨_, ss, hss, rfl⟩
  | .mapping es => by
    simp only [ofNode_mapping]
    constructor
    · rintro ⟨_, rs, hrs, -⟩
      have hboth := (exists_ofEntries_iff es []).mp ⟨rs, hrs⟩
      exact .mapping (fun e he => (hboth e he).1) fun e he => (hboth e he).2
    · intro hreadable
      cases hreadable with
      | mapping names values =>
        obtain ⟨rs, hrs⟩ := (exists_ofEntries_iff es []).mpr fun e he => ⟨names e he, values e he⟩
        exact ⟨_, rs, hrs, rfl⟩

theorem exists_ofItems_iff : ∀ ns : List Node,
    (∃ ss, ofItems ns = .ok ss) ↔ ∀ n ∈ ns, n.Readable
  | [] => ⟨fun _ _ h => (List.not_mem_nil h).elim, fun _ => ⟨[], by rw [ofItems]⟩⟩
  | n :: ns => by
    rw [List.forall_mem_cons, ← exists_ofNode_iff n, ← exists_ofItems_iff ns]
    simp only [ofItems_cons]
    constructor
    · rintro ⟨_, s, rest, hs, hrest, -⟩
      exact ⟨⟨s, hs⟩, rest, hrest⟩
    · rintro ⟨⟨s, hs⟩, rest, hrest⟩
      exact ⟨_, s, rest, hs, hrest, rfl⟩

theorem exists_ofEntries_iff : ∀ (es : List (Node × Node)) (done : List (String × Setting)),
    (∃ rs, ofEntries es done = .ok rs) ↔ ∀ e ∈ es, (nameOf? e.1).isSome ∧ e.2.Readable
  | [], done => ⟨fun _ _ h => (List.not_mem_nil h).elim, fun _ => ⟨done, by rw [ofEntries]⟩⟩
  | (key, value) :: es, done => by
    rw [List.forall_mem_cons, ← exists_ofNode_iff value]
    simp only [ofEntries_cons, Option.isSome_iff_exists]
    constructor
    · rintro ⟨rs, name, s, hname, hs, hrs⟩
      refine ⟨⟨⟨name, hname⟩, s, hs⟩, ?_⟩
      simpa only [Option.isSome_iff_exists] using (exists_ofEntries_iff es _).mp ⟨rs, hrs⟩
    · rintro ⟨⟨⟨name, hname⟩, s, hs⟩, hrest⟩
      obtain ⟨rs, hrs⟩ := (exists_ofEntries_iff es (replaceIn name s done)).mpr
        (by simpa only [Option.isSome_iff_exists] using hrest)
      exact ⟨rs, name, s, hname, hs, hrs⟩

end

theorem exists_ofEntries_iff_readable :
    (∃ rs, ofEntries es [] = .ok rs) ↔ (Node.mapping es).Readable := by
  rw [← exists_ofNode_iff]
  simp only [ofNode_mapping]
  exact ⟨fun ⟨rs, hrs⟩ => ⟨_, rs, hrs, rfl⟩, fun ⟨_, rs, hrs, _⟩ => ⟨rs, hrs⟩⟩

theorem isOk_ofNode_iff (n : Node) : (ofNode n).isOk ↔ n.Readable := by
  rw [← exists_ofNode_iff]
  cases ofNode n <;> simp [Except.isOk, Except.toBool]

instance : DecidablePred Node.Readable := fun n => decidable_of_iff _ (isOk_ofNode_iff n)

/-! ## Values by name -/

theorem valueOf?_cons :
    valueOf? m (e :: es) = (valueOf? m es).or (if nameOf? e.1 = some m then some e.2 else none) := by
  rw [valueOf?, valueOf?, List.reverse_cons, List.find?_append, Option.map_or]
  by_cases h : nameOf? e.1 = some m <;> simp [h]

/-- **The settings of a mapping stand under the names of their values.** -/
theorem get_ofEntries (h : ofEntries es done = .ok rs) :
    (table rs).get m =
      match valueOf? m es with
      | some n => (ofNode n).toOption
      | none => (table done).get m := by
  induction es generalizing done with
  | nil =>
    rw [ofEntries, Except.ok.injEq] at h
    rw [h]
    rfl
  | cons e es ih =>
    obtain ⟨name, s, hname, hs, hrest⟩ := ofEntries_cons.mp h
    rw [ih hrest, valueOf?_cons, hname, get_replaceIn]
    cases valueOf? m es with
    | some n => rfl
    | none =>
      by_cases heq : name = m
      · rw [if_pos heq, if_pos (congrArg some heq), Option.none_or]
        exact (congrArg Except.toOption hs).symm
      · rw [if_neg heq, if_neg fun h => heq (Option.some.inj h)]
        rfl

theorem nodup_ofEntries (h : ofEntries es done = .ok rs) (hdone : (done.map (·.1)).Nodup) :
    (rs.map (·.1)).Nodup := by
  induction es generalizing done with
  | nil =>
    rw [ofEntries, Except.ok.injEq] at h
    exact h ▸ hdone
  | cons e es ih =>
    obtain ⟨name, s, -, -, hrest⟩ := ofEntries_cons.mp h
    exact ih hrest (nodup_replaceIn hdone)

theorem mem_ofEntries {r : String × Setting} (h : ofEntries es done = .ok rs) (hr : r ∈ rs) :
    r ∈ done ∨ ∃ e ∈ es, nameOf? e.1 = some r.1 := by
  induction es generalizing done with
  | nil =>
    rw [ofEntries, Except.ok.injEq] at h
    exact .inl (h ▸ hr)
  | cons e es ih =>
    obtain ⟨name, s, hname, -, hrest⟩ := ofEntries_cons.mp h
    obtain hdone | ⟨d, hd, hkey⟩ := ih hrest
    · obtain rfl | hdone := mem_replaceIn hdone
      · exact .inr ⟨e, List.mem_cons_self, hname⟩
      · exact .inl hdone
    · exact .inr ⟨d, List.mem_cons_of_mem _ hd, hkey⟩

theorem ofYaml_of_mapping {text : String} (h : document? text = some (some (.mapping es))) :
    ofYaml text = ofEntries es [] := by
  unfold ofYaml
  simp only [h, ofNode]
  cases ofEntries es [] <;> rfl

theorem onto_of_isScalar (hscalar : n.IsScalar) (h : ofNode n = .ok v) (old : Option Setting) :
    v.onto old = v := by
  cases n with
  | list ns => exact hscalar.elim
  | mapping es => exact hscalar.elim
  | real s =>
    rw [ofNode] at h
    split at h
    · obtain rfl := Except.ok.inj h
      rfl
    · nomatch h
  | _ => obtain rfl := Except.ok.inj h; rfl

end Setting

end TagCatalog
