import ClassMatch.Report.Trail
import ClassMatch.Settings.MethodsMode

/-!
How a comparison fails: at a difference, or because it was not set up properly.
-/
namespace ClassMatch

/-- A difference, where it was found, and the comparator that found it if one was asked. -/
structure Failure where
  trail : Trail
  message : String
  comparator : Option String
  deriving DecidableEq

/-- The trail, if there is one, on a line of its own, then the message and the comparator. -/
def Failure.text (f : Failure) : String :=
  (if f.trail.crumbs.isEmpty then "" else s!"[{f.trail.path}] \n") ++ f.message ++
    f.comparator.elim "" ("\nwhen comparing values using " ++ ·)

inductive SetupError
  | noKeys
  | unknownMode (text : String)
  deriving DecidableEq

def SetupError.message : SetupError → String
  | noKeys => "Invalid assertion setup: no key extractor configured for a one-by-one comparison"
  | unknownMode text => s!"Invalid assertion setup: unknown methods comparison mode '{text}'"

/-- A mode given by its name. -/
def MethodsMode.parse (text : String) : Except SetupError MethodsMode :=
  (MethodsMode.ofName? text).elim (.error (.unknownMode text)) .ok

/-- The message about two values that should be the same. -/
def mismatch (expected actual : String) : String := s!"expected: {expected}\n but was: {actual}"

end ClassMatch
