/-!
How the methods of two classes are compared.
-/
namespace ClassMatch

inductive MethodsMode
  /-- By their names and descriptors alone. -/
  | declarationsOnly
  /-- Methods with the same declaration against each other. -/
  | oneByOne
  /-- As whole methods in any order. -/
  | full
  deriving DecidableEq

namespace MethodsMode

def name : MethodsMode → String
  | declarationsOnly => "declarations-only"
  | oneByOne => "one-by-one"
  | full => "full"

/-- The mode with the given name, in which case does not matter and underscores count as hyphens. -/
def ofName? (text : String) : Option MethodsMode :=
  let folded := text.map fun c => if c = '_' then '-' else c.toLower
  [declarationsOnly, oneByOne, full].find? fun mode => mode.name = folded

end MethodsMode

end ClassMatch
