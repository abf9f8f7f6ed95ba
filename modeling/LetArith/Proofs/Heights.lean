import LetArith.Proofs.Rendering

namespace LetArith

open Text (blanks someBlanks)

namespace Node

variable (value : Binary64) (n : Nat)

end Node

namespace Stack

variable {limit signs : Nat}

end Stack

end LetArith
