import ClassMatch.Descriptor.Basic

/-!
Reading descriptors. A reader takes characters from the front and returns the rest, so that types
follow each other without separators in a method descriptor.
-/
namespace ClassMatch

/-- Why a text is no descriptor. -/
inductive DescriptorError
  | leftover (c : Char)
  | unterminatedName (sofar : String)
  | emptyName
  | noObject
  | unknownBase (c : Char)
  | missingBase
  | unknownReference (c : Char)
  | missingType
  | noOpeningParen
  | noClosingParen
  deriving DecidableEq

namespace DescriptorError

/-- The text ended where more was needed. -/
def isUnexpectedEnd : DescriptorError → Bool
  | unterminatedName _ | missingBase | missingType => true
  | _ => false

def message : DescriptorError → String
  | leftover c => s!"Unexpected leftover input '{c}'"
  | unterminatedName sofar => s!"Missing terminator for 'L{sofar}'"
  | emptyName => "Empty class name in object type"
  | noObject => "Expected object type to start with `L`"
  | unknownBase c => s!"Invalid base type character '{c}'"
  | missingBase => "Missing base type character"
  | unknownReference c => s!"Invalid reference type character '{c}'"
  | missingType => "Missing field type"
  | noOpeningParen => "Expected '(' for method"
  | noClosingParen => "Expected ')' for method"

end DescriptorError

/-- A reader takes a value from the front of the characters and returns the rest. -/
abbrev Reader (α : Type) := List Char → Except DescriptorError (α × List Char)

/-- Characters of a class name up to the semicolon that ends it, after `taken` in reverse. -/
def readNameTail (taken : List Char) : Reader String
  | [] => .error (.unterminatedName (String.ofList taken.reverse))
  | c :: rest =>
    if c = ';' then
      if taken.isEmpty then .error .emptyName else .ok (String.ofList taken.reverse, rest)
    else readNameTail (c :: taken) rest

/-- A class name between `L` and a semicolon. -/
def readClassName : Reader String
  | 'L' :: rest => readNameTail [] rest
  | _ => .error .noObject

def readBase : Reader BaseType
  | [] => .error .missingBase
  | c :: rest =>
    match BaseType.ofLetter? c with
    | some type => .ok (type, rest)
    | none => .error (.unknownBase c)

/-- The element type of an array, of which `extra` further opening brackets were read. -/
def readArray (extra : UInt64) : Reader RefType
  | '[' :: rest => readArray (extra + 1) rest
  | 'L' :: rest => do
    let (className, rest) ← readClassName ('L' :: rest)
    return (.objectArray extra className, rest)
  | text => do
    let (element, rest) ← readBase text
    return (.primitiveArray extra element, rest)

def readRef : Reader RefType
  | [] => .error .missingType
  | '[' :: rest => readArray 0 rest
  | 'L' :: rest => do
    let (className, rest) ← readClassName ('L' :: rest)
    return (.object className, rest)
  | c :: _ => .error (.unknownReference c)

def readField : Reader FieldType
  | [] => .error .missingType
  | c :: rest =>
    match BaseType.ofLetter? c with
    | some type => .ok (.base type, rest)
    | none => do
      let (type, rest) ← readRef (c :: rest)
      return (.ref type, rest)

/-- Types up to a closing parenthesis, which is left in the rest. Every type takes at least one
character, so reading as many types as there are characters reaches the end. -/
def readParameters (limit : Nat) (text : List Char) :
    Except DescriptorError (List FieldType × List Char) :=
  match limit with
  | 0 => .ok ([], text)
  | limit + 1 =>
    if text.head? = some ')' then .ok ([], text)
    else do
      let (type, rest) ← readField text
      let (types, rest) ← readParameters limit rest
      return (type :: types, rest)

def readResult : Reader (Option FieldType)
  | 'V' :: rest => .ok (none, rest)
  | text => do
    let (type, rest) ← readField text
    return (some type, rest)

def readMethod : Reader MethodDescriptor
  | '(' :: rest => do
    let (parameters, rest) ← readParameters (rest.length + 1) rest
    match rest with
    | ')' :: rest =>
      let (result, rest) ← readResult rest
      return (⟨parameters, result⟩, rest)
    | _ => .error .noClosingParen
  | _ => .error .noOpeningParen

/-- The value that takes up the whole text. -/
def readAll {α : Type} (reader : Reader α) (text : String) : Except DescriptorError α := do
  let (value, rest) ← reader text.toList
  match rest with
  | [] => return value
  | c :: _ => .error (.leftover c)

def BaseType.parse : String → Except DescriptorError BaseType := readAll readBase
def RefType.parse : String → Except DescriptorError RefType := readAll readRef
def FieldType.parse : String → Except DescriptorError FieldType := readAll readField
def MethodDescriptor.parse : String → Except DescriptorError MethodDescriptor := readAll readMethod

/-- An object type alone, as its class name. -/
def parseObjectType : String → Except DescriptorError String := readAll readClassName

/-- The source form of a field descriptor; a text that is none stays as it is. -/
def sourceTypeName (descriptor : String) : String :=
  match FieldType.parse descriptor with
  | .ok type => type.sourceForm
  | .error _ => descriptor

/-- The source form of an internal class name. The name of an array class is its descriptor. -/
def sourceClassName (name : String) : String :=
  if name.toList.head? = some '[' then sourceTypeName name else dottedName name

end ClassMatch
