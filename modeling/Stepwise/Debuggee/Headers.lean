import Stepwise.Debuggee.Header.Collections
import Stepwise.Debuggee.Header.Core
import Stepwise.Debuggee.Header.Strings

/-!
# The text that is compiled

An instrumented program is compiled behind an include of the umbrella header (`wrapSource`;
`wrap_source`), and the headers are written next to it (`Header.all`; `write_headers`).
-/

/-!
## 1. The umbrella header

The header that every program includes.  It includes the others.
-/

namespace Stepwise.Header

/-- The contents of `stanford.h`. -/
def umbrella : Text :=
  ofLines [
   "// CppStep umbrella header, included ahead of every student program.",
   "#pragma once",
   "",
   "#include \"debug_core.h\"",
   "#include \"collections.h\"",
   "#include \"strlib.h\""]

end Stepwise.Header

/-! ## 2. What is compiled -/

namespace Stepwise

namespace Header

/-- The header that every program includes. -/
def umbrellaName : Text := "stanford.h"

/-- The name under which compilers know the program. -/
def sourceName : Text := "main.cpp"

/-- The headers with their file names. -/
def all : List (Text × Text) :=
  [("debug_core.h", debugCore), ("collections.h", collections), ("strlib.h", strings),
   (umbrellaName, umbrella)]

end Header

/-- The text that is compiled for a program.  The line directive makes every diagnostic tell the
line of the program itself. -/
def wrapSource (source : Text) : Text :=
  "#include \"" ++ Header.umbrellaName ++ "\"\n#line 1 \"" ++ Header.sourceName ++ "\"\n" ++ source

end Stepwise
