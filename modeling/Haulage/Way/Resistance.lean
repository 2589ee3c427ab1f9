import Haulage.Fixed
import Haulage.Way

/-!
# Resistance of a way

What a way does to a vehicle that moves on it at any speed: the drag of the air, the resistance to
rolling, and how hard a vehicle without a rated brake can slow down there.
-/

namespace Haulage

/-- Drag, rolling resistance and braking on a way. -/
structure Resistance where
  /-- Air drag in kg/m; the force is this times the square of the speed. -/
  drag : Fixed
  /-- Rolling resistance as a part of the weight. -/
  rolling : Fixed
  /-- Deceleration in m/s² of a vehicle without a rated brake. -/
  braking : Fixed
deriving DecidableEq

namespace Way

/-- The resistance constants of a way. -/
def resistance : Way → Resistance
  | track | narrowGauge => ⟨.ofInt 13, .ratio 51 10000, .half⟩
  | tram | monorail => ⟨.ofInt 13, .ratio 51 10000, .one⟩
  | maglev => ⟨.ofInt 10, .ratio 15 10000, .ratio 12 10⟩
  | water => ⟨.ofInt 25, .ratio 1 1000, .ratio 1 10⟩
  | air => ⟨.one, .ratio 1 1000, .ofInt 2⟩
  | road | other => ⟨.ratio 252 100, .ratio 15 1000, .one⟩

end Way

end Haulage
