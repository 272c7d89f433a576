import ClassMatch.Tree.Declaration

/-!
Instruction lists without what line numbers add to them: the line number instructions themselves
and the labels to which nothing but line numbers refers.
-/
namespace ClassMatch

/-- Labels to which a machine instruction or a frame refers. -/
def instructionAnchors (instructions : List Instruction) : List Label :=
  (instructions.filter fun i => i.placed?.isNone && !i.isLineNumber).flatMap Instruction.labels

def TryCatchBlock.labels (block : TryCatchBlock) : List Label :=
  [block.start, block.stop, block.handler]

def LocalVariable.labels (v : LocalVariable) : List Label := [v.start, v.stop]

def LocalVariableAnnotationUse.labels (use : LocalVariableAnnotationUse) : List Label :=
  use.starts ++ use.ends

/-- Labels to which something other than a line number refers. -/
def Method.anchors (m : Method) : List Label :=
  instructionAnchors m.instructions ++
    m.tryCatchBlocks.flatMap TryCatchBlock.labels ++
    (m.localVariables.getD []).flatMap LocalVariable.labels ++
    (m.visibleLocalVariableAnnotations.getD []).flatMap LocalVariableAnnotationUse.labels ++
    (m.invisibleLocalVariableAnnotations.getD []).flatMap LocalVariableAnnotationUse.labels

/-- The instruction stays when labels outside `anchors` and line numbers go. -/
def Instruction.isKept (anchors : List Label) : Instruction → Bool
  | lineNumber .. => false
  | label placed => anchors.contains placed
  | _ => true

def withoutLineNumbers (anchors : List Label) (instructions : List Instruction) :
    List Instruction :=
  instructions.filter (Instruction.isKept anchors)

/-- The method without its line numbers, and without the labels that only they need. -/
def Method.withoutLineNumbers (m : Method) : Method :=
  { m with instructions := ClassMatch.withoutLineNumbers m.anchors m.instructions }

/-- How many instructions go with the line numbers of the list. -/
def removedCount (anchors : List Label) (instructions : List Instruction) : Nat :=
  instructions.length - (withoutLineNumbers anchors instructions).length

end ClassMatch
