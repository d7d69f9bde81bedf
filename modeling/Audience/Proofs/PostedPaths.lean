import Mathlib.Data.List.DropRight
import Audience.Proofs.Addresses

/-!
# Paths behind a base

## Simple paths

The path of a request is written behind the base of the service.  A path of letters, digits
and slashes is neither cleaned away nor escaped, and none of its segments means anything but
itself.
-/

namespace Audience
namespace Http

open Text

namespace Target

end Target

/-!
## Paths of targets

The segments in front of a simple path may be resolved, but not its own segments.
-/

end Http
end Audience
