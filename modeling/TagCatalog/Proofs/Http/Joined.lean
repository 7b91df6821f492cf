import Mathlib.Tactic.SplitIfs
import TagCatalog.Auth.Store
import TagCatalog.Proofs.Http.Exchange

/-!
# Links in one field

A reply may send its links in several `Link` fields, or all of them in one field with commas between
them. The server of a world can be taken to join the fields of all its replies; an exchange then
goes on as it did, and only its replies are others. So does a store that does not look at replies.

* `Http.joined`, `Http.joined_flatten`, `Http.isReadable_joined`: values in one field;
* `Http.Headers.joined`, `Http.Headers.values_joined`, `Http.Headers.values_joined_of_ne`: headers
  with one `Link` field;
* `Trace.joined`, `World.joined`: what happens with such replies, and the world that gives them;
* `Store.IgnoresReplies`, **`World.Answers.joined`**: a log that a world answers;
* **`Http.yields_exchange_joined`**: the logs of an exchange.
-/

namespace TagCatalog

namespace Http

/-! ## Values -/

/-- Values in one field, with a comma and a blank between them. -/
def joined (values : List String) : String := ", ".intercalate values

theorem joined_flatten {groups : List (List String)} (h : ∀ g ∈ groups, g ≠ []) :
    joined (groups.map joined) = joined groups.flatten := by
  induction groups with
  | nil => rfl
  | cons g groups ih =>
    rw [List.forall_mem_cons] at h
    by_cases hnil : groups = []
    · subst hnil
      simp [joined]
    · have hmap : groups.map joined ≠ [] := mt List.map_eq_nil_iff.1 hnil
      have hflatten : groups.flatten ≠ [] := by
        obtain ⟨g', hg'⟩ := List.exists_mem_of_ne_nil groups hnil
        exact fun hempty => h.2 g' hg' (List.flatten_eq_nil_iff.1 hempty g' hg')
      calc joined ((g :: groups).map joined)
          = joined g ++ ", " ++ joined (groups.map joined) :=
            String.intercalate_cons_of_ne_nil hmap
        _ = joined g ++ ", " ++ joined groups.flatten := by rw [ih h.2]
        _ = joined (g :: groups).flatten :=
            (String.intercalate_append_of_ne_nil h.1 hflatten).symm

theorem isReadable_append (a b : String) :
    isReadable (a ++ b) = (isReadable a && isReadable b) := by
  rw [isReadable, String.toList_append, List.all_append, isReadable, isReadable]

theorem isReadable_joined {values : List String} (h : ∀ v ∈ values, isReadable v) :
    isReadable (joined values) := by
  induction values with
  | nil => rfl
  | cons v values ih =>
    rw [List.forall_mem_cons] at h
    by_cases hnil : values = []
    · subst hnil
      simpa [joined] using h.1
    · rw [joined, String.intercalate_cons_of_ne_nil hnil, isReadable_append, isReadable_append,
        h.1, ← joined, ih h.2]
      rfl

/-! ## Headers -/

/-- The headers with all links in one field. -/
def Headers.joined (h : Headers) : Headers :=
  if h.values "Link" = [] then h
  else h.filter (fun p => !sameName p.1 "Link") ++ [("Link", Http.joined (h.values "Link"))]

theorem Headers.values_append (h h' : Headers) (name : String) :
    Headers.values (h ++ h') name = h.values name ++ h'.values name := by
  rw [values, List.filter_append, List.map_append, values, values]

variable {h : Headers}

theorem Headers.joined_eq_self (hlinks : h.values "Link" = []) : h.joined = h := if_pos hlinks

/-- There is one field with all the links. -/
theorem Headers.values_joined (hlinks : h.values "Link" ≠ []) :
    h.joined.values "Link" = [Http.joined (h.values "Link")] := by
  have hnone : Headers.values (h.filter fun p => !sameName p.1 "Link") "Link" = [] := by
    simp [values]
  have hsame : sameName "Link" "Link" = true := by decide
  rw [joined, if_neg hlinks, values_append, hnone]
  simp [values, hsame]

theorem Headers.values_joined_of_ne {name : String} (hname : sameName "Link" name = false) :
    h.joined.values name = h.values name := by
  rw [joined]
  split_ifs with hlinks
  · rfl
  · have hother : ∀ p ∈ h, (sameName p.1 name && !sameName p.1 "Link") = sameName p.1 name := by
      intro p _
      cases hp : sameName p.1 name with
      | false => rfl
      | true =>
        cases hlink : sameName p.1 "Link" with
        | false => rfl
        | true =>
          rw [sameName, beq_iff_eq] at hp hlink
          rw [sameName, ← hlink, hp, beq_self_eq_true] at hname
          nomatch hname
    have hlink : Headers.values [("Link", Http.joined (h.values "Link"))] name = [] := by
      simp [values, hname]
    rw [values_append, hlink, List.append_nil, values, List.filter_filter,
      List.filter_congr hother, values]

/-! ## Replies -/

/-- The reply with all links in one field. -/
def Reply.joined (r : Reply) : Reply := { r with headers := r.headers.joined }

/-- The answer with all links in one field. -/
def Answer.joined : Answer → Answer
  | reply r => reply r.joined
  | refused => refused
  | timedOut => timedOut
  | dropped => dropped

/-- The response with all links in one field. -/
def Response.joined (r : Response) : Response := { r with reply := r.reply.joined }

theorem Response.target?_joined (r : Response) : r.joined.target? = r.target? := by
  have hlocation : r.joined.reply.headers.values "Location" = r.reply.headers.values "Location" :=
    Headers.values_joined_of_ne (by decide)
  rw [target?, target?, hlocation]
  rfl

end Http

/-! ## Worlds -/

/-- The event with all links of a reply in one field. -/
def Event.joined : Event → Event
  | exchanged request answer => exchanged request answer.joined
  | askedBasic url answer => askedBasic url answer
  | askedRefresh realm service answer => askedRefresh realm service answer
  | keptRefresh realm service token => keptRefresh realm service token

/-- The trace with all links of each reply in one field. -/
def Trace.joined (t : Trace) : Trace := t.map Event.joined

theorem Trace.joined_append (t t' : Trace) : joined (t ++ t') = joined t ++ joined t' :=
  List.map_append

theorem Trace.requests_joined (t : Trace) : t.joined.requests = t.requests := by
  rw [requests, joined, List.filterMap_map]
  congr 1
  funext e
  cases e <;> rfl

/-- The world whose server sends all links of a reply in one field. -/
def World.joined (w : World) : World where
  server before request := (w.server before request).joined
  store := w.store

/-- The answers of a store do not hang on the links of replies. -/
structure Store.IgnoresReplies (s : Store) : Prop where
  basic (t : Trace) (url : Url) : s.basic t.joined url = s.basic t url
  refresh (t : Trace) (realm : Url) (service : String) :
    s.refresh t.joined realm service = s.refresh t realm service

theorem Store.ignoresReplies_fixed (username password : Option String) :
    (fixed username password).IgnoresReplies := ⟨fun _ _ => rfl, fun _ _ _ => rfl⟩

theorem Store.ignoresReplies_remembering (credentials : Option Credentials) (seed : List Entry) :
    (remembering credentials seed).IgnoresReplies where
  basic _ _ := rfl
  refresh t realm service := by
    have hkept : kept t.joined = kept t := by
      rw [kept, Trace.joined, List.filterMap_map, kept]
      congr 1
      funext e
      cases e <;> rfl
    simp only [remembering, hkept]

variable {w : World} {t log : Trace}

/-- **The joined world answers the joined log.** -/
theorem World.Answers.joined (hstore : w.store.IgnoresReplies) (h : w.Answers t log) :
    w.joined.Answers t.joined log.joined := by
  induction log generalizing t with
  | nil => trivial
  | cons e log ih =>
    obtain ⟨hgives, hrest⟩ := h
    refine ⟨?_, ?_⟩
    · cases e with
      | exchanged request answer =>
        have hanswer : answer = w.server t.requests request := hgives
        change answer.joined = (w.server t.joined.requests request).joined
        rw [Trace.requests_joined, hanswer]
      | askedBasic url answer => exact hgives.trans (hstore.basic t url).symm
      | askedRefresh realm service answer =>
        exact hgives.trans (hstore.refresh t realm service).symm
      | keptRefresh => trivial
    · have hnext := ih hrest
      rwa [Trace.joined_append] at hnext

/-! ## Exchanges -/

namespace Http

variable {call : Call} {left : Nat} {r : Except Stop (Except SendError Response)}

theorem yields_follow_joined (h : (follow left call).Yields log r) :
    (follow left call).Yields log.joined (r.map (Except.map Response.joined)) := by
  induction left using Nat.strongRecOn generalizing call log with
  | _ left ih =>
    rw [follow] at h ⊢
    split_ifs at h ⊢ with haddr
    · obtain ⟨rfl, rfl⟩ := Session.yields_done_iff.1 h
      exact .done _
    · obtain ⟨answer, rest, rfl, hnext⟩ := Session.yields_send_iff.1 h
      refine Session.yields_send_iff.2 ⟨answer.joined, Trace.joined rest, rfl, ?_⟩
      cases answer with
      | refused | timedOut | dropped =>
        obtain ⟨rfl, rfl⟩ := Session.yields_done_iff.1 hnext
        exact .done _
      | reply reply =>
        have htarget : (Response.mk reply.joined call.url).target? =
            (Response.mk reply call.url).target? := Response.target?_joined ⟨reply, call.url⟩
        dsimp only [Answer.joined] at hnext ⊢
        rw [htarget]
        cases hto : (Response.mk reply call.url).target? with
        | none =>
          rw [hto] at hnext
          obtain ⟨rfl, rfl⟩ := Session.yields_done_iff.1 hnext
          exact .done _
        | some target =>
          rw [hto] at hnext
          cases left with
          | zero =>
            obtain ⟨rfl, rfl⟩ := Session.yields_done_iff.1 hnext
            exact .done _
          | succ left => exact ih left (Nat.lt_succ_self left) hnext

/-- **An exchange goes on alike when the links of replies are joined.** -/
theorem yields_exchange_joined (h : (exchange call).Yields log r) :
    (exchange call).Yields log.joined (r.map (Except.map Response.joined)) := by
  rw [exchange] at h ⊢
  split_ifs at h ⊢
  · exact yields_follow_joined h
  · obtain ⟨rfl, rfl⟩ := Session.yields_done_iff.1 h
    exact .done _

end Http

end TagCatalog
