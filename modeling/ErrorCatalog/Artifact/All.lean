import ErrorCatalog.Artifact.Constants
import ErrorCatalog.Artifact.Enumeration

/-!
# `ErrorCatalog/Artifact/All.lean` — every artifact of one language

A catalog with `n` attributes gives `n + 1` artifacts for each language. Their names are derived
from the attributes and need not differ: two attributes may have one camel case form, and an
attribute may be called like the artifact with all attributes. Nothing here prevents that.
-/

set_option autoImplicit false

namespace ErrorCatalog

/-- Every artifact of one language: the constants of each attribute, then all attributes together. -/
def renderAll (c : Catalog) (l : Language) (package : Option Text) : List Artifact :=
  (List.range c.width).filterMap (fun column => renderConstants c column l package) ++
    [renderEnumeration c l package]

end ErrorCatalog
