import ClassMatch.Descriptor.Parse
import ClassMatch.Text.Quoted
import ClassMatch.Tree.Annotations

/-!
Texts of annotations, close to how they are written in source code.
-/
namespace ClassMatch

open Text

mutual

def ElementValue.text : ElementValue → String
  | .byte value => "(byte)" ++ toString value.toInt
  | .boolean value => toString value
  | .char value => quoteChar value
  | .short value => "(short)" ++ toString value.toInt
  | .int value => toString value.toInt
  | .long value => toString value.toInt ++ "L"
  | .float value => value.text ++ "F"
  | .double value => value.text ++ "D"
  | .string value => quote value
  | .type descriptor => sourceTypeName descriptor ++ ".class"
  | .enumConstant descriptor name => sourceTypeName descriptor ++ "." ++ name
  | .nested descriptor elements =>
    "@" ++ sourceTypeName descriptor ++
      if elements.isEmpty then "" else "(" ++ ", ".intercalate (elementTexts elements) ++ ")"
  | .array values => "\x7b" ++ ", ".intercalate (valueTexts values) ++ "\x7d"

def elementTexts : List (String × ElementValue) → List String
  | [] => []
  | (name, value) :: elements => (name ++ "=" ++ value.text) :: elementTexts elements

def valueTexts : List ElementValue → List String
  | [] => []
  | value :: values => value.text :: valueTexts values

end

namespace AnnotationUse

def short (use : AnnotationUse) : String := "@" ++ sourceTypeName use.descriptor

/-- The type and, if there are any, the elements. -/
def text (use : AnnotationUse) : String :=
  use.short ++
    if use.elements.isEmpty then "" else "(" ++ ", ".intercalate (elementTexts use.elements) ++ ")"

end AnnotationUse

/-- Eight hexadecimal digits. -/
def hexWord (word : UInt32) : String :=
  let digits := Nat.toDigits 16 word.toNat
  String.ofList (List.replicate (8 - digits.length) '0' ++ digits)

/-- The name of the sort, and what else the reference carries if the sort has it. -/
def TypeReference.text (r : TypeReference) : String :=
  let sorts : List (UInt8 × String) := [
    (classTypeParameter, s!"class_type_parameter={r.typeParameterIndex}"),
    (methodTypeParameter, s!"method_type_parameter={r.typeParameterIndex}"),
    (classExtends, s!"class_extends={r.superTypeIndex.toInt}"),
    (classTypeParameterBound,
      s!"class_type_parameter_bound={r.typeParameterIndex},{r.typeParameterBoundIndex}"),
    (methodTypeParameterBound,
      s!"method_type_parameter_bound={r.typeParameterIndex},{r.typeParameterBoundIndex}"),
    (onField, "field"),
    (methodReturn, "method_return"),
    (methodReceiver, "method_receiver"),
    (methodFormalParameter, s!"method_formal_parameter={r.formalParameterIndex}"),
    (throws, s!"throws={r.exceptionIndex}"),
    (onLocalVariable, "local_variable"),
    (resourceVariable, "resource_variable"),
    (exceptionParameter, s!"exception_parameter={r.tryCatchBlockIndex}"),
    (instanceOf, "instanceof"),
    (newObject, "new"),
    (constructorReference, "constructor_reference"),
    (methodReference, "method_reference"),
    (cast, s!"cast={r.typeArgumentIndex}"),
    (constructorInvocationTypeArgument,
      s!"constructor_invocation_type_argument={r.typeArgumentIndex}"),
    (methodInvocationTypeArgument, s!"method_invocation_type_argument={r.typeArgumentIndex}"),
    (constructorReferenceTypeArgument,
      s!"constructor_reference_type_argument={r.typeArgumentIndex}"),
    (methodReferenceTypeArgument, s!"method_reference_type_argument={r.typeArgumentIndex}")]
  (sorts.lookup r.sort).getD ("unknown=0x" ++ hexWord r.packed)

namespace TypeAnnotationUse

/-- Which use of a type carries the annotation. -/
def details (use : TypeAnnotationUse) : String :=
  "reference: " ++ use.target.text ++ use.path.elim "" ("; path: " ++ ·)

def short (use : TypeAnnotationUse) : String := use.use.short

def text (use : TypeAnnotationUse) : String := use.use.text ++ " // " ++ use.details

end TypeAnnotationUse

namespace LocalVariableAnnotationUse

/-- As many ranges as there are starts, ends and slots. -/
def ranges (names : LabelNames) (use : LocalVariableAnnotationUse) : String :=
  ", ".intercalate ((use.starts.zip (use.ends.zip use.slots)).map fun (start, stop, slot) =>
    s!"{names.nameOf start}-{names.nameOf stop}@{slot}")

def short (use : LocalVariableAnnotationUse) : String := use.typeUse.short

def text (names : LabelNames) (use : LocalVariableAnnotationUse) : String :=
  s!"{use.typeUse.use.text} // range: {use.ranges names}; {use.typeUse.details}"

end LocalVariableAnnotationUse

/-- Two lower-case hexadecimal digits for each byte. -/
def hexBytes (bytes : List UInt8) : String :=
  String.ofList (bytes.flatMap fun byte =>
    [Nat.digitChar (byte.toNat / 16), Nat.digitChar (byte.toNat % 16)])

def Attribute.text (a : Attribute) : String := a.kind ++ ": 0x" ++ hexBytes a.content

end ClassMatch
