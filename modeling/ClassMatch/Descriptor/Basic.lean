/-!
Field types and method descriptors with their written forms: the descriptor form used in class
files and the form used in source code.
-/
namespace ClassMatch

inductive BaseType
  | byte | char | double | float | int | long | short | boolean
  deriving DecidableEq

/-- A reference type; an array has one dimension more than its `extra` ones, which are counted in a
machine word. -/
inductive RefType
  | object (className : String)
  | objectArray (extra : UInt64) (className : String)
  | primitiveArray (extra : UInt64) (element : BaseType)
  deriving DecidableEq

inductive FieldType
  | base (type : BaseType)
  | ref (type : RefType)
  deriving DecidableEq

/-- Parameter types and the type of the result, which is absent for `void`. -/
structure MethodDescriptor where
  parameters : List FieldType
  result : Option FieldType
  deriving DecidableEq

namespace BaseType

def letter : BaseType → Char
  | byte => 'B'
  | char => 'C'
  | double => 'D'
  | float => 'F'
  | int => 'I'
  | long => 'J'
  | short => 'S'
  | boolean => 'Z'

def keyword : BaseType → String
  | byte => "byte"
  | char => "char"
  | double => "double"
  | float => "float"
  | int => "int"
  | long => "long"
  | short => "short"
  | boolean => "boolean"

/-- The type with the given letter. -/
def ofLetter? : Char → Option BaseType
  | 'B' => some byte
  | 'C' => some char
  | 'D' => some double
  | 'F' => some float
  | 'I' => some int
  | 'J' => some long
  | 'S' => some short
  | 'Z' => some boolean
  | _ => none

theorem ofLetter?_letter (t : BaseType) : ofLetter? t.letter = some t := by cases t <;> rfl

end BaseType

/-- The descriptor form of an object type. -/
def objectChars (className : String) : List Char := 'L' :: className.toList ++ [';']

/-- Number of dimensions, zero for a type that is no array. The sum of an array wraps around, so
one with as many extra dimensions as a word can hold counts none either. -/
def RefType.dimensions : RefType → UInt64
  | object _ => 0
  | objectArray extra _ | primitiveArray extra _ => extra + 1

/-- The descriptor form of what is left without the dimensions. -/
def RefType.elementChars : RefType → List Char
  | object className | objectArray _ className => objectChars className
  | primitiveArray _ element => [element.letter]

def RefType.chars (type : RefType) : List Char :=
  List.replicate type.dimensions.toNat '[' ++ type.elementChars

def FieldType.chars : FieldType → List Char
  | base type => [type.letter]
  | ref type => type.chars

def MethodDescriptor.chars (d : MethodDescriptor) : List Char :=
  '(' :: d.parameters.flatMap FieldType.chars ++ ')' :: (d.result.elim ['V'] FieldType.chars)

/-- The descriptor form. -/
def FieldType.render (t : FieldType) : String := String.ofList t.chars

/-- The descriptor form. -/
def RefType.render (t : RefType) : String := String.ofList t.chars

/-- The descriptor form. -/
def MethodDescriptor.render (d : MethodDescriptor) : String := String.ofList d.chars

/-- The source form of an internal class name, with points between its parts. -/
def dottedName (className : String) : String :=
  className.map fun c => if c = '/' then '.' else c

def brackets (dimensions : Nat) : String := String.join (List.replicate dimensions "[]")

/-- The source form of what is left without the dimensions. -/
def RefType.elementSource : RefType → String
  | object className | objectArray _ className => dottedName className
  | primitiveArray _ element => element.keyword

def RefType.sourceForm (type : RefType) : String :=
  type.elementSource ++ brackets type.dimensions.toNat

def FieldType.sourceForm : FieldType → String
  | base type => type.keyword
  | ref type => type.sourceForm

end ClassMatch
