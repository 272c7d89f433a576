/-!
Type references. The high byte is the sort, which says what kind of type use is meant; the layout
of the other three bytes depends on the sort.
-/
namespace ClassMatch

structure TypeReference where
  packed : UInt32
  deriving DecidableEq

namespace TypeReference

def sort (r : TypeReference) : UInt8 := (r.packed >>> 24).toUInt8
def typeParameterIndex (r : TypeReference) : UInt8 := (r.packed >>> 16).toUInt8
def typeParameterBoundIndex (r : TypeReference) : UInt8 := (r.packed >>> 8).toUInt8

/-- An index into the interfaces, or `-1` for the super class. -/
def superTypeIndex (r : TypeReference) : Int16 := (r.packed >>> 8).toUInt16.toInt16

def formalParameterIndex (r : TypeReference) : UInt8 := (r.packed >>> 16).toUInt8
def exceptionIndex (r : TypeReference) : UInt16 := (r.packed >>> 8).toUInt16
def tryCatchBlockIndex (r : TypeReference) : UInt16 := (r.packed >>> 8).toUInt16
def typeArgumentIndex (r : TypeReference) : UInt8 := r.packed.toUInt8

def classTypeParameter : UInt8 := 0x00
def methodTypeParameter : UInt8 := 0x01
def classExtends : UInt8 := 0x10
def classTypeParameterBound : UInt8 := 0x11
def methodTypeParameterBound : UInt8 := 0x12
def onField : UInt8 := 0x13
def methodReturn : UInt8 := 0x14
def methodReceiver : UInt8 := 0x15
def methodFormalParameter : UInt8 := 0x16
def throws : UInt8 := 0x17
def onLocalVariable : UInt8 := 0x40
def resourceVariable : UInt8 := 0x41
def exceptionParameter : UInt8 := 0x42
def instanceOf : UInt8 := 0x43
def newObject : UInt8 := 0x44
def constructorReference : UInt8 := 0x45
def methodReference : UInt8 := 0x46
def cast : UInt8 := 0x47
def constructorInvocationTypeArgument : UInt8 := 0x48
def methodInvocationTypeArgument : UInt8 := 0x49
def constructorReferenceTypeArgument : UInt8 := 0x4a
def methodReferenceTypeArgument : UInt8 := 0x4b

/-- A reference of a sort that carries nothing else. -/
def ofSort (sort : UInt8) : TypeReference := ⟨sort.toUInt32 <<< 24⟩

def typeParameter (sort parameter : UInt8) : TypeReference :=
  ⟨(ofSort sort).packed ||| (parameter.toUInt32 <<< 16)⟩

def typeParameterBound (sort parameter bound : UInt8) : TypeReference :=
  ⟨(typeParameter sort parameter).packed ||| (bound.toUInt32 <<< 8)⟩

def formalParameter (parameter : UInt8) : TypeReference :=
  typeParameter methodFormalParameter parameter

def exception (index : UInt16) : TypeReference :=
  ⟨(ofSort throws).packed ||| (index.toUInt32 <<< 8)⟩

end TypeReference

end ClassMatch
