/-!
Trails: where in a comparison something was found, from the outermost crumb to the innermost.
-/
namespace ClassMatch

structure Trail where
  crumbs : List String
  deriving DecidableEq

namespace Trail

def empty : Trail := ⟨[]⟩

def root (crumb : String) : Trail := ⟨[crumb]⟩

def push (trail : Trail) (crumb : String) : Trail := ⟨trail.crumbs ++ [crumb]⟩

/-- The crumb under which a part of a node is compared. -/
def fieldCrumb (part : String) : String := "Has equal " ++ part

def path (trail : Trail) : String := " > ".intercalate trail.crumbs

end Trail

end ClassMatch
