/-!
# Paths

Paths are texts with slashes between their names.

## Main definitions

* `Path.join base part` — the path of `part` seen from `base`.
-/

namespace HostPreflight.Path

/-- The path of `part` seen from `base`.  An absolute part stands on its own, and
no slash is added where there is nothing to separate. -/
def join (base part : String) : String :=
  if part.toList.head? = some '/' then part
  else if base = "" ∨ base.toList.getLast? = some '/' then base ++ part
  else base ++ "/" ++ part

end HostPreflight.Path
