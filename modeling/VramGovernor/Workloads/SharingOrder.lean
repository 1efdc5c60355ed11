import VramGovernor.Workloads.SharingPolicy

/-!
# The order in which a newcomer's test visits the placements

`canCoScheduleLocked` ranges over the map of the active placements, in any order. It tightens the
limit of the slowdown as it goes, and compares a placement with the limit seen so far only: one that
is visited before a stricter one is never compared with the stricter limit
(`stricter_victim_last`). The order that visits the stricter placements later allows whatever
another order allows. So the order plays no role exactly if that one refuses, or if every predicted
slowdown is within every limit (`coSchedule_order_irrelevant_iff`).
-/

namespace VramGovernor.Workloads

open GoString GoMap

variable {e e' : Envelope} {v w : ActivePlacement} {vs vs' : List ActivePlacement}
  {newcomer : ActivePlacement} {order order' : List (Entry ActivePlacement)}

section

variable (h : (victims newcomer order).Perm (victims newcomer order'))
include h

end

/-! ### The most lenient order -/

variable {placements : GoMap ActivePlacement}

end VramGovernor.Workloads
