/-!
# Version

* `version`: the version of the library.
-/

namespace TagCatalog

/-- The version of the library. -/
def version : String := "0.0.1"

end TagCatalog
