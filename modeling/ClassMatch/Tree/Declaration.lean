import ClassMatch.Access.Mask
import ClassMatch.Tree.Instruction

/-!
Fields, methods and classes. What a list holds is in the order of the class file; an absent list is
not the same as an empty one.
-/
namespace ClassMatch

structure Parameter where
  name : Option String
  access : UInt32
  deriving DecidableEq, BEq

structure InnerClass where
  name : String
  outerName : Option String
  innerName : Option String
  access : UInt32
  deriving DecidableEq, BEq

structure Field where
  access : UInt32
  name : String
  descriptor : String
  signature : Option String
  value : Option Constant
  metadata : Metadata
  deriving BEq

/-- For each parameter its annotations, if it has a list of them. -/
abbrev ParameterAnnotations := List (Option (List AnnotationUse))

structure Method where
  access : UInt32
  name : String
  descriptor : String
  signature : Option String
  metadata : Metadata
  exceptions : List String
  parameters : Option (List Parameter)
  annotationDefault : Option ElementValue
  visibleAnnotableCount : UInt16
  visibleParameterAnnotations : Option ParameterAnnotations
  invisibleAnnotableCount : UInt16
  invisibleParameterAnnotations : Option ParameterAnnotations
  instructions : List Instruction
  tryCatchBlocks : List TryCatchBlock
  maxStack : UInt16
  maxLocals : UInt16
  localVariables : Option (List LocalVariable)
  visibleLocalVariableAnnotations : Option (List LocalVariableAnnotationUse)
  invisibleLocalVariableAnnotations : Option (List LocalVariableAnnotationUse)
  deriving BEq

/-- What tells the methods of one class apart. -/
def Method.declaration (m : Method) : String := m.name ++ m.descriptor

structure ClassFile where
  version : UInt32
  access : UInt32
  name : String
  signature : Option String
  superName : Option String
  interfaces : List String
  sourceFile : Option String
  sourceDebug : Option String
  outerClass : Option String
  outerMethod : Option String
  outerMethodDescriptor : Option String
  metadata : Metadata
  innerClasses : List InnerClass
  nestHost : Option String
  nestMembers : Option (List String)
  permittedSubclasses : Option (List String)
  fields : List Field
  methods : List Method
  deriving BEq

end ClassMatch
