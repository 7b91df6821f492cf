import TagCatalog.Auth.Credentials
import TagCatalog.Proofs.Text.Base64
import TagCatalog.Proofs.Text.Split

/-!
# What a header says of its credentials

The header that presents a user name and a password holds both, with a colon between them, in
padded Base64. Nothing of the bytes is lost, so a header says the whole text; it does not say which
of its colons is the one between them. The first one is, if there is none in the user name.

* `Credentials.text`: the text that a header says;
* `Credentials.decode?_bytes`, `Credentials.headerValue_eq_iff`: a header says exactly this text;
* `Credentials.splitFirst?_text`, `Credentials.eq_of_text`: credentials without a colon in the user
  name;
* **`Credentials.read_headerValue`**: what is read from a header.
-/

namespace TagCatalog.Credentials

open Text

variable {c c' : Credentials}

/-- The user name, a colon and the password. -/
def text (c : Credentials) : List Char := c.username.toList ++ ':' :: c.password.toList

theorem toList_append_colon (c : Credentials) :
    (c.username ++ ":" ++ c.password).toList = c.text := by
  simp [text, String.toList_append]

theorem bytes_eq (c : Credentials) : c.bytes = Utf8.encode c.text := by
  rw [bytes, toList_append_colon]

theorem decode?_bytes (c : Credentials) : Utf8.decode? c.bytes = some c.text := by
  rw [bytes_eq, Utf8.decode?_encode]

theorem toList_headerValue (c : Credentials) :
    c.headerValue.toList = "Basic ".toList ++ Base64.encode c.bytes := by
  rw [headerValue, String.toList_append]
  exact congrArg _ String.toList_ofList

/-- Credentials have one header exactly if they have one text. -/
theorem headerValue_eq_iff : c.headerValue = c'.headerValue ↔ c.text = c'.text := by
  constructor
  · intro h
    have hencoded : Base64.encode c.bytes = Base64.encode c'.bytes := by
      have hlists := congrArg String.toList h
      rw [toList_headerValue, toList_headerValue] at hlists
      exact List.append_cancel_left hlists
    have hbytes : some c.bytes = some c'.bytes := by
      rw [← Base64.decode?_encode, ← Base64.decode?_encode, hencoded]
    have htext : some c.text = some c'.text := by
      rw [← decode?_bytes, ← decode?_bytes, Option.some.inj hbytes]
    exact Option.some.inj htext
  · intro h
    rw [headerValue, headerValue, bytes_eq, bytes_eq, h]

theorem splitFirst?_text (h : ':' ∉ c.username.toList) :
    splitFirst? ':' c.text = some (c.username.toList, c.password.toList) :=
  splitFirst?_append h c.password.toList

theorem eq_of_text (h : ':' ∉ c.username.toList) (h' : ':' ∉ c'.username.toList)
    (htext : c.text = c'.text) : c = c' := by
  obtain ⟨hname, hpassword⟩ := append_cons_inj h h' htext
  cases c
  cases c'
  exact congrArg₂ _ (String.toList_inj.1 hname) (String.toList_inj.1 hpassword)

/-- **What is read from a header of credentials.** Behind the scheme it is the padded Base64 of the
bytes of the user name, a colon and the password, and no other text is read as these bytes; the
bytes are read as this text. So two headers are equal exactly if the texts are. Without a colon in
the user name, the first colon parts the text into the two, and no other such credentials have the
header. -/
theorem read_headerValue (c : Credentials) :
    (∃ encoded, c.headerValue = "Basic " ++ String.ofList encoded ∧
      Base64.IsPadded c.bytes.length encoded ∧
      (∀ s, Base64.decode? s = some c.bytes ↔ s = encoded)) ∧
    c.bytes = Utf8.encode (c.username ++ ":" ++ c.password).toList ∧
    Utf8.decode? c.bytes = some (c.username ++ ":" ++ c.password).toList ∧
    (∀ c' : Credentials, c.headerValue = c'.headerValue ↔
      c.username ++ ":" ++ c.password = c'.username ++ ":" ++ c'.password) ∧
    (':' ∉ c.username.toList →
      splitFirst? ':' (c.username ++ ":" ++ c.password).toList =
        some (c.username.toList, c.password.toList) ∧
      ∀ c' : Credentials, ':' ∉ c'.username.toList → c ≠ c' → c.headerValue ≠ c'.headerValue) := by
  refine ⟨⟨Base64.encode c.bytes, rfl, Base64.isPadded_encode c.bytes,
    fun s => Base64.decode?_eq_some_iff⟩, rfl, ?_, fun c' => ?_, fun hcolon => ⟨?_, ?_⟩⟩
  · rw [toList_append_colon, decode?_bytes]
  · rw [headerValue_eq_iff, ← String.toList_inj, toList_append_colon, toList_append_colon]
  · rw [toList_append_colon, splitFirst?_text hcolon]
  · exact fun c' hcolon' hne heq => hne (eq_of_text hcolon hcolon' (headerValue_eq_iff.1 heq))

/-- A password with colons, and characters of one to four bytes. -/
def manyColons : Credentials := ⟨"zoë€", ":🔑:"⟩

theorem read_headerValue_manyColons :
    ':' ∉ manyColons.username.toList ∧
      splitFirst? ':' "zoë€::🔑:".toList = some ("zoë€".toList, ":🔑:".toList) ∧
      Base64.IsPadded 14 (Base64.encode manyColons.bytes) ∧
      manyColons.headerValue ≠ headerValue ⟨"zoë€", ":🔑"⟩ := by
  have hcolon : ':' ∉ manyColons.username.toList := by decide
  obtain ⟨⟨encoded, -, hpadded, hdecode⟩, -, -, -, hsplit⟩ := read_headerValue manyColons
  have hencoded := (hdecode _).1 (Base64.decode?_encode manyColons.bytes)
  have hlength : manyColons.bytes.length = 14 := by decide +kernel
  rw [← hencoded, hlength] at hpadded
  exact ⟨hcolon, (hsplit hcolon).1, hpadded, (hsplit hcolon).2 _ (by decide) (by decide)⟩

/-- Where a user name has a colon, the header does not say where it ends. -/
example : headerValue ⟨"a:b", "c"⟩ = headerValue ⟨"a", "b:c"⟩ := by decide +kernel

end TagCatalog.Credentials
