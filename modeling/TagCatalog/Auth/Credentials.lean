import TagCatalog.Text.Base64
import TagCatalog.Text.Utf8

/-!
# Credentials

* `Credentials`: a user name and a password;
* `Credentials.headerValue`: the value of the `Authorization` header that presents them.
-/

namespace TagCatalog

/-- A user name and a password. -/
structure Credentials where
  username : String
  password : String
  deriving DecidableEq, Repr

namespace Credentials

/-- The bytes of the user name, a colon and the password. -/
def bytes (c : Credentials) : List UInt8 :=
  Text.Utf8.encode (c.username ++ ":" ++ c.password).toList

/-- The `Authorization` header that presents the credentials. -/
def headerValue (c : Credentials) : String :=
  "Basic " ++ String.ofList (Text.Base64.encode c.bytes)

end Credentials

end TagCatalog
