import ClassMatch.Report.Trail
import ClassMatch.Settings.Context

/-!
What a comparison reports on its way, whether it succeeds or not.
-/
namespace ClassMatch

inductive Event
  /-- The trail has got a new crumb. -/
  | entering (trail : Trail)
  /-- The labels of a pair of instruction lists were numbered. -/
  | resolvedLabels (count : Nat)
  /-- Instructions went with the line numbers of a list. -/
  | removedInstructions (count : Nat)
  | comparingMethods (className : String) (mode : MethodsMode)
  | pairedUp (keys notFound notExpected : Nat)
  deriving DecidableEq

namespace Event

def level : Event → String
  | entering _ => "TRACE"
  | _ => "DEBUG"

def message : Event → String
  | entering trail => s!"Entering {trail.path}"
  | resolvedLabels count => s!"Resolved {count} labels for an instruction list pair"
  | removedInstructions count => s!"Removed {count} line number instructions and labels"
  | comparingMethods className mode => s!"Comparing methods of {className} in {mode.name} mode"
  | pairedUp keys notFound notExpected =>
    s!"Paired up {keys} keys ({notFound} not found, {notExpected} not expected)"

end Event

/-- Reported when an instruction list loses its line numbers. -/
def removalEvent (anchors : List Label) (instructions : List Instruction) : Event :=
  .removedInstructions (removedCount anchors instructions)

/-- Reported when the context looks at a method. -/
def Context.viewEvents (ctx : Context) (m : Method) : List Event :=
  if ctx.has .ignoreLineNumbers then [removalEvent m.anchors m.instructions] else []

/-- Reported when the context takes up a pair of instruction lists. -/
def Context.pairEvents (ctx : Context) (actual expected : List Instruction) : List Event :=
  if ctx.fixed then [] else [.resolvedLabels (pairedCount actual expected)]

end ClassMatch
