import LogMill.Proofs.Run.Configured

namespace LogMill

namespace Pool

theorem ofSize_name (r : Resource) (size : Int) (t t' : Twister) :
    (ofSize (.name r) size t).1 = (ofSize (.name r) size t').1 := rfl

end Pool

namespace PoolSet

theorem poolFor_congr {seed seed' : Value} (h : seed.plain = seed'.plain) (size : Int) (c : Category) :
    poolFor seed size c = poolFor seed' size c := by
  simp only [poolFor, stateFor, h]

theorem poolFor_name (seed seed' : Value) (size : Int) (r : Resource) :
    poolFor seed size (.name r) = poolFor seed' size (.name r) := by
  unfold poolFor
  exact Pool.ofSize_name r size _ _

theorem size_poolFor_of_nonneg {seed : Value} {size : Int} {c : Category} (h : 0 ≤ size) :
    ((poolFor seed size c).size : Int) = size := by
  rw [poolFor, Pool.size_ofSize, Int.toNat_of_nonneg h]

end PoolSet

end LogMill
