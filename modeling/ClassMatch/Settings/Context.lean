import ClassMatch.Label.LineNumbers
import ClassMatch.Label.Numbering
import ClassMatch.Settings.MethodsMode
import ClassMatch.Settings.Option
import ClassMatch.Settings.Representation

/-!
The context of a comparison: what is left out, how labels are resolved, how nodes are shown. Labels
are compared by index and shown by name, and given names take precedence over indices only in what
is shown.
-/
namespace ClassMatch

structure Context where
  options : OptionSet
  mode : MethodsMode
  indices : LabelIndices
  /-- The caller has chosen the indices, and no instruction list changes them. -/
  fixed : Bool
  /-- Names given by the caller. -/
  givenNames : LabelNames
  representation : Representation

namespace Context

/-- No options and no known labels. -/
def plain : Context :=
  { options := .empty, mode := .oneByOne, indices := fun _ => none, fixed := false
    givenNames := .unknown, representation := .usual }

def has (ctx : Context) (option : CheckOption) : Bool := ctx.options.contains option

/-- The names under which labels are shown. -/
def names (ctx : Context) : LabelNames := ctx.givenNames.merge (.ofIndices ctx.indices)

/-- The context in which all labels have the same index. -/
def ignoringLabels (ctx : Context) : Context :=
  { ctx with indices := fun _ => some 0, fixed := true }

/-- The context for what belongs to a pair of instruction lists: their labels are known by their
ordinals, unless the caller has fixed the indices. -/
def forInstructions (ctx : Context) (actual expected : List Instruction) : Context :=
  if ctx.fixed then ctx
  else { ctx with indices := ((pairedMap actual expected).add ctx.indices).find id }

/-- The method as it is compared, which is without line numbers when these are ignored. -/
def view (ctx : Context) (m : Method) : Method :=
  if ctx.has .ignoreLineNumbers then m.withoutLineNumbers else m

end Context

end ClassMatch
