import ClassMatch.Tree.Declaration

/-!
The kinds of things that can be compared, checked and rendered, and the type of each.
-/
namespace ClassMatch

inductive Kind
  | text | label | access | constant | elementValue | annotationUse | typeReference
  | typeAnnotationUse | localVariableAnnotationUse | parameter | innerClass | rawAttribute
  | tryCatchBlock | localVariable | instruction | field | method | classFile
  deriving DecidableEq

namespace Kind

/-- What a node of the kind is. -/
abbrev Node : Kind → Type
  | text => String
  | label => Label
  | access => Access
  | constant => Constant
  | elementValue => ElementValue
  | annotationUse => AnnotationUse
  | typeReference => TypeReference
  | typeAnnotationUse => TypeAnnotationUse
  | localVariableAnnotationUse => LocalVariableAnnotationUse
  | parameter => Parameter
  | innerClass => InnerClass
  | rawAttribute => Attribute
  | tryCatchBlock => TryCatchBlock
  | localVariable => LocalVariable
  | instruction => Instruction
  | field => Field
  | method => Method
  | classFile => ClassFile

/-- The name of the kind in messages. -/
def title : Kind → String
  | text => "Value"
  | label => "Label"
  | access => "Access"
  | constant => "Constant"
  | elementValue => "Annotation value"
  | annotationUse => "Annotation"
  | typeReference => "Type reference"
  | typeAnnotationUse => "Type annotation"
  | localVariableAnnotationUse => "Local variable annotation"
  | parameter => "Parameter"
  | innerClass => "Inner class"
  | rawAttribute => "Attribute"
  | tryCatchBlock => "Try catch block"
  | localVariable => "Local variable"
  | instruction => "Instruction"
  | field => "Field"
  | method => "Method"
  | classFile => "Class"

/-- The name of the order of the kind in messages. -/
def orderName : Kind → String
  | text => "StringComparator"
  | label => "LabelNodeComparator"
  | access => "AccessNodeComparator"
  | constant => "ConstantValueComparator"
  | elementValue => "AnnotationValueComparator"
  | annotationUse => "AnnotationNodeComparator"
  | typeReference => "TypeReferenceComparator"
  | typeAnnotationUse => "TypeAnnotationNodeComparator"
  | localVariableAnnotationUse => "LocalVariableAnnotationNodeComparator"
  | parameter => "ParameterNodeComparator"
  | innerClass => "InnerClassNodeComparator"
  | rawAttribute => "AttributeComparator"
  | tryCatchBlock => "TryCatchBlockNodeComparator"
  | localVariable => "LocalVariableNodeComparator"
  | instruction => "InstructionComparator"
  | field => "FieldNodeComparator"
  | method => "MethodNodeComparator"
  | classFile => "ClassNodeComparator"

/-- Equality of two nodes as they stand: lists in order, labels by identity, floating point numbers
by numeric equality. -/
def same : (k : Kind) → k.Node → k.Node → Bool
  | text, a, b => a == b
  | label, a, b => a == b
  | access, a, b => a == b
  | constant, a, b => a == b
  | elementValue, a, b => a == b
  | annotationUse, a, b => a == b
  | typeReference, a, b => a == b
  | typeAnnotationUse, a, b => a == b
  | localVariableAnnotationUse, a, b => a == b
  | parameter, a, b => a == b
  | innerClass, a, b => a == b
  | rawAttribute, a, b => a == b
  | tryCatchBlock, a, b => a == b
  | localVariable, a, b => a == b
  | instruction, a, b => a == b
  | field, a, b => a == b
  | method, a, b => a == b
  | classFile, a, b => a == b

end Kind

end ClassMatch
