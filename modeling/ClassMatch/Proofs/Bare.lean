import ClassMatch.Tree.Declaration

/-!
Fields, methods and classes in which nothing is present but what is given.
-/
namespace ClassMatch

def Metadata.absent : Metadata := ⟨none, none, none, none, none⟩

def Field.bare (name descriptor : String) : Field :=
  { access := 0, name, descriptor, signature := none, value := none, metadata := .absent }

def Method.bare (name descriptor : String) (instructions : List Instruction) : Method :=
  { access := 0, name, descriptor, signature := none, metadata := .absent, exceptions := []
    parameters := none, annotationDefault := none
    visibleAnnotableCount := 0, visibleParameterAnnotations := none
    invisibleAnnotableCount := 0, invisibleParameterAnnotations := none
    instructions, tryCatchBlocks := [], maxStack := 0, maxLocals := 0, localVariables := none
    visibleLocalVariableAnnotations := none, invisibleLocalVariableAnnotations := none }

def ClassFile.bare (name : String) (fields : List Field) (methods : List Method) : ClassFile :=
  { version := 0, access := 0, name, signature := none, superName := none, interfaces := []
    sourceFile := none, sourceDebug := none, outerClass := none, outerMethod := none
    outerMethodDescriptor := none, metadata := .absent, innerClasses := [], nestHost := none
    nestMembers := none, permittedSubclasses := none, fields, methods }

/-- A block that begins, ends and is handled at one label. -/
def TryCatchBlock.bare (l : Label) : TryCatchBlock :=
  { start := l, stop := l, handler := l, catchType := none
    visibleTypeAnnotations := none, invisibleTypeAnnotations := none }

/-- A variable in the first slot that lives nowhere. -/
def LocalVariable.bare (l : Label) : LocalVariable :=
  { name := "", descriptor := "", signature := none, start := l, stop := l, slot := 0 }

def LocalVariableAnnotationUse.bare (l : Label) : LocalVariableAnnotationUse :=
  { typeUse := ⟨⟨0⟩, none, ⟨"", []⟩⟩, starts := [l], ends := [l], slots := [0] }

end ClassMatch
