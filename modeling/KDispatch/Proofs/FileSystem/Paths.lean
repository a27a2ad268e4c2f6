import KDispatch.Proofs.FileSystem.Names

/-!
The last name of a path. A path leads to a location of the same last name, unless a link stands there.
-/

namespace KDispatch

namespace Path

end Path

namespace FileSystem

variable {fs : FileSystem} {path : List String} {name : String} {location target : Location}

end FileSystem

end KDispatch
