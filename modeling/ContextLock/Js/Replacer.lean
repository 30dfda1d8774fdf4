/-
  Subject:   `JSON.stringify` with a list of keys.

  A list of keys as second argument acts at every depth: each object, however deep, keeps those
  of its fields whose keys are listed, in the order of the list.
-/
import ContextLock.Js.Canonical

namespace ContextLock.Js

variable {keys : List String}

end ContextLock.Js
