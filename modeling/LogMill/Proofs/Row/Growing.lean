import LogMill.Proofs.Row.Likeness

namespace LogMill

open Outcome

namespace PoolSet

end PoolSet

end LogMill
