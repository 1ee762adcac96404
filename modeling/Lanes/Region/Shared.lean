import Lanes.Region.Run
import Lanes.Accumulator.Codec

/-!
Accumulators as the shared values of regions: they fold by `Acc.combine`, and cross the device
boundary as their envelope, read back.
-/

namespace Lanes.Region

open Lanes.Accumulator

instance : Mergeable Acc where
  kind := Acc.kind
  identity := Acc.identity
  combine a b := a.combine (some b)
  transfer a := decode a.encode

end Lanes.Region
