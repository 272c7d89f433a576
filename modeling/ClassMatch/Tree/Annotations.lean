import ClassMatch.Number.Binary
import ClassMatch.Tree.Label
import ClassMatch.Tree.TypeReference

/-!
Annotations and the values of their elements. The equality of this file takes everything as it
stands: elements in order, floating point numbers by numeric equality.
-/
namespace ClassMatch

open Number

/-- A value of an annotation element. A nested annotation is its descriptor with its elements. -/
inductive ElementValue
  | byte (value : Int8)
  | boolean (value : Bool)
  | char (value : Char)
  | short (value : Int16)
  | int (value : Int32)
  | long (value : Int64)
  | float (value : Binary32)
  | double (value : Binary64)
  | string (value : String)
  | type (descriptor : String)
  | enumConstant (descriptor name : String)
  | nested (descriptor : String) (elements : List (String × ElementValue))
  | array (values : List ElementValue)

namespace ElementValue

mutual

/-- Equality of the values as they stand. -/
def same : ElementValue → ElementValue → Bool
  | byte a, byte b => a == b
  | boolean a, boolean b => a == b
  | char a, char b => a == b
  | short a, short b => a == b
  | int a, int b => a == b
  | long a, long b => a == b
  | float a, float b => a == b
  | double a, double b => a == b
  | string a, string b => a == b
  | type a, type b => a == b
  | enumConstant d n, enumConstant d' n' => d == d' && n == n'
  | nested d es, nested d' es' => d == d' && sameElements es es'
  | array vs, array vs' => sameValues vs vs'
  | _, _ => false

def sameElements : List (String × ElementValue) → List (String × ElementValue) → Bool
  | [], [] => true
  | (n, v) :: es, (n', v') :: es' => n == n' && same v v' && sameElements es es'
  | _, _ => false

def sameValues : List ElementValue → List ElementValue → Bool
  | [], [] => true
  | v :: vs, v' :: vs' => same v v' && sameValues vs vs'
  | _, _ => false

end

instance : BEq ElementValue := ⟨same⟩

/-- Position among the kinds of values. -/
def rank : ElementValue → Nat
  | byte _ => 0
  | boolean _ => 1
  | char _ => 2
  | short _ => 3
  | int _ => 4
  | long _ => 5
  | float _ => 6
  | double _ => 7
  | string _ => 8
  | type _ => 9
  | enumConstant _ _ => 10
  | nested _ _ => 11
  | array _ => 12

end ElementValue

/-- An annotation: its type and the values given for its elements. -/
structure AnnotationUse where
  descriptor : String
  elements : List (String × ElementValue)
  deriving BEq

/-- An annotation on a use of a type, with the way to an inner part of that type. -/
structure TypeAnnotationUse where
  target : TypeReference
  path : Option String
  use : AnnotationUse
  deriving BEq

/-- A type annotation on a local variable, with the ranges in which the variable lives. -/
structure LocalVariableAnnotationUse where
  typeUse : TypeAnnotationUse
  starts : List Label
  ends : List Label
  slots : List UInt16
  deriving BEq

/-- An attribute with content of an unknown format. -/
structure Attribute where
  kind : String
  content : List UInt8
  deriving BEq, DecidableEq

/-- The optional lists that classes, fields and methods have in common. -/
structure Metadata where
  visibleAnnotations : Option (List AnnotationUse)
  invisibleAnnotations : Option (List AnnotationUse)
  visibleTypeAnnotations : Option (List TypeAnnotationUse)
  invisibleTypeAnnotations : Option (List TypeAnnotationUse)
  attributes : Option (List Attribute)
  deriving BEq

end ClassMatch
