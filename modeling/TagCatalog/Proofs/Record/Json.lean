import TagCatalog.Proofs.Json.Token

/-!
# Records written and read

A record is written in one way and read in many. What is written is read back as the same record, so
a text that is read and written again has a form that stays as it is.

* `Record.tokens`, `Record.reads_toJson`: the tokens of a written record;
* `Record.value`, `Record.ofText?_toJson`, `Record.ofValue?_value`: its value;
* **`Record.ofJson?_toJson`**: a written record is read back;
* **`Record.roundTrip`**: the round trip from a record, and from a text.
-/

namespace TagCatalog.Record

open Json Json.Token

/-- The value of a time. -/
def secondsValue : Option Int64 → Json
  | none => .null
  | some secs => .integer secs.toInt

/-- The value of a record. -/
def value (r : Record) : Json :=
  .object [(some "tag", .text (some r.tag)), (some "branch", .text (some r.branch)),
    (some "revision", .text (some r.revision)), (some "last_modified_secs", secondsValue r.seconds)]

/-- The tokens of a name and its colon. -/
def nameTokens (name : String) : List Token := [.scalar (.text (some name)), .colon]

/-- The tokens of a written record. -/
def tokens (r : Record) : List Token :=
  .openObject :: nameTokens "tag" ++ [.scalar (.text (some r.tag)), .comma] ++
    nameTokens "branch" ++ [.scalar (.text (some r.branch)), .comma] ++
    nameTokens "revision" ++ [.scalar (.text (some r.revision)), .comma] ++
    nameTokens "last_modified_secs" ++ [.scalar (secondsValue r.seconds), .closeObject]

/-! ## Tokens -/

theorem isWordChar_signedDecimal {c : Char} {n : Int} (h : c ∈ Text.signedDecimal n) :
    isWordChar c := by
  obtain rfl | hdigit := Text.mem_signedDecimal h
  · decide
  · have hdigits : ∀ d < 10, isWordChar (Text.digitChar d) := by decide
    obtain ⟨d, hd, rfl⟩ := Text.exists_digitChar hdigit
    exact hdigits d hd

theorem reads_seconds (secs : Option Int64) :
    Reads (secondsJson secs ++ ['\x7d']) [.scalar (secondsValue secs), .closeObject] := by
  cases secs with
  | none => exact Reads.word (by decide) (by decide) rfl rfl
  | some secs =>
    refine Reads.word (fun c hc => isWordChar_signedDecimal hc) (fun hnil => ?_)
      (word?_signedDecimal secs) rfl
    have hvalue := word?_signedDecimal secs
    rw [show Text.signedDecimal secs.toInt = [] from hnil] at hvalue
    nomatch hvalue

/-- A written record is read as its tokens. -/
theorem reads_toJson (r : Record) : Reads r.toJson.toList r.tokens := by
  have hname : ∀ name, Reads (quoted name ++ [':']) (nameTokens name) := fun name =>
    (Reads.quoted name).append (.mark rfl)
  have htext : ∀ s, Reads (quoted s ++ [',']) [.scalar (.text (some s)), .comma] := fun s =>
    (Reads.quoted s).append (.mark rfl)
  have hopen : Reads ['\x7b'] [.openObject] := .mark rfl
  have hfields := (hname "tag").append <| (htext r.tag).append <|
    (hname "branch").append <| (htext r.branch).append <|
    (hname "revision").append <| (htext r.revision).append <|
    (hname "last_modified_secs").append (reads_seconds r.seconds)
  rw [toJson, String.toList_ofList]
  simpa [tokens, List.append_assoc] using hopen.append hfields

/-! ## Values -/

theorem run_tokens (r : Record) :
    Stage.run ⟨[], .value false⟩ r.tokens = some ⟨[], .finished r.value⟩ := rfl

theorem ofText?_toJson (r : Record) : ofText? r.toJson = some r.value := by
  rw [ofText?, ofSymbols?, (reads_toJson r).scan?]
  exact congrArg (· >>= fun s => _) (run_tokens r)

theorem seconds?_secondsValue (secs : Option Int64) :
    Json.optional? Json.int64? (secondsValue secs) = some secs := by
  cases secs with
  | none => rfl
  | some secs =>
    have hfits : Text.int64OfInt? secs.toInt = some secs := by
      rw [Text.int64OfInt?, if_pos ⟨secs.minValue_le_toInt, secs.toInt_le⟩, Int64.ofInt_toInt]
    rw [secondsValue, Json.optional?, Json.int64?, hfits]
    · rfl
    · simp

theorem ofValue?_value (r : Record) : ofValue? r.value = some r := by
  have hfields : r.value.fields? fieldNames = some [some (.text (some r.tag)),
      some (.text (some r.branch)), some (.text (some r.revision)),
      some (secondsValue r.seconds)] := rfl
  rw [ofValue?, hfields]
  simp only [value, Option.bind_eq_bind, Option.bind_some, Json.text?, seconds?_secondsValue]
  rfl

/-- **A written record is read back.** -/
theorem ofJson?_toJson (r : Record) : ofJson? r.toJson = some r := by
  rw [ofJson?, ofText?_toJson, Option.bind_some, ofValue?_value]

/-- **The round trip of records.** What is written for a record is read as the record. And whatever
the text that is read as a record, what is written for it then is read as the same record, and
written again it stays as it is. -/
theorem roundTrip :
    (∀ r : Record, ofJson? r.toJson = some r) ∧
    ∀ (text : String) (r : Record), ofJson? text = some r →
      ofJson? r.toJson = some r ∧ ∀ r', ofJson? r.toJson = some r' → r'.toJson = r.toJson := by
  refine ⟨ofJson?_toJson, fun text r _ => ⟨ofJson?_toJson r, fun r' h => ?_⟩⟩
  rw [ofJson?_toJson, Option.some.injEq] at h
  rw [h]

/-- A record in another spelling: in another order, with blanks, escapes and a member of no field. -/
def spelled : String :=
  "\x7b \"more\" : [1.5e3, \x7b\x7d],\n \"last_modified_secs\" : -9223372036854775808,\t" ++
  "\"revision\":\"\\ud83d\\uDD11\\u0000\", \"br\\u0061nch\":\"\\/\\\"\\\\\", \"tag\":\"\" \x7d"

theorem roundTrip_spelled :
    ofJson? spelled = some ⟨"", "/\"\\", "🔑\x00", some Int64.minValue⟩ ∧
      ofJson? (toJson ⟨"", "/\"\\", "🔑\x00", some Int64.minValue⟩) =
        some ⟨"", "/\"\\", "🔑\x00", some Int64.minValue⟩ := by
  have hread : ofJson? spelled = some ⟨"", "/\"\\", "🔑\x00", some Int64.minValue⟩ := by
    decide +kernel
  exact ⟨hread, (roundTrip.2 spelled _ hread).1⟩

end TagCatalog.Record
