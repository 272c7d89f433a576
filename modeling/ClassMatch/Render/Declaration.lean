import ClassMatch.Label.Numbering
import ClassMatch.Render.Annotations
import ClassMatch.Render.Code
import ClassMatch.Text.Lines
import ClassMatch.Tree.Declaration

/-!
Texts of fields, methods and classes: what stands before the declaration, the declaration as it
would be written in source code, and the rest in comments. A method names the labels that are
otherwise unknown by their place in it.
-/
namespace ClassMatch

open Text

/-- The mask as a number, with the names of its flags if there are any. -/
def Access.text (access : Access) : String :=
  let names := if access.names.isEmpty then "" else ": " ++ ", ".intercalate access.names
  s!"[{access.mask}{names}]"

namespace Parameter

def short (p : Parameter) : String := p.name.getD "null"

def text (p : Parameter) : String :=
  " ".intercalate (Access.names ⟨p.access, .onParameter⟩ ++ [p.short])

end Parameter

namespace InnerClass

def short (c : InnerClass) : String := sourceClassName c.name

def text (c : InnerClass) : String :=
  let details := (c.outerName.map ("outer name: " ++ sourceClassName ·)).toList ++
    (c.innerName.map ("inner name: " ++ ·)).toList
  Access.text ⟨c.access, .onInnerClass⟩ ++ " " ++ c.short ++
    if details.isEmpty then "" else " // " ++ ", ".intercalate details

end InnerClass

/-- One line for each annotation; the invisible ones, which come last, are marked. -/
def annotationLines {α : Type} (text : α → String) (visible invisible : Option (List α)) :
    List String :=
  (visible.getD []).map text ++ (invisible.getD []).map fun use => text use ++ " // invisible"

/-- What stands before a declaration. -/
def Metadata.lines (m : Metadata) : List String :=
  (m.attributes.getD []).map (fun a => "// Attribute: " ++ a.text) ++
    annotationLines AnnotationUse.text m.visibleAnnotations m.invisibleAnnotations ++
    annotationLines TypeAnnotationUse.text m.visibleTypeAnnotations m.invisibleTypeAnnotations

def signatureComment (signature : Option String) : String :=
  signature.elim "" (" // signature: " ++ ·)

namespace TryCatchBlock

def short (names : LabelNames) (b : TryCatchBlock) : String :=
  let caught := b.catchType.elim "finally" sourceClassName
  s!"{caught}, {names.nameOf b.start} -> {names.nameOf b.stop} handled in {names.nameOf b.handler}"

def text (names : LabelNames) (b : TryCatchBlock) : String :=
  "\n".intercalate
    (annotationLines TypeAnnotationUse.text b.visibleTypeAnnotations b.invisibleTypeAnnotations ++
      [b.short names])

end TryCatchBlock

namespace LocalVariable

def short (v : LocalVariable) : String := s!"#{v.slot} {sourceTypeName v.descriptor} {v.name}"

def text (names : LabelNames) (v : LocalVariable) : String :=
  s!"{v.short} // range: {names.nameOf v.start}-{names.nameOf v.stop}" ++
    v.signature.elim "" ("; signature: " ++ ·)

end LocalVariable

namespace Field

def short (f : Field) : String := sourceTypeName f.descriptor ++ " " ++ f.name

def text (f : Field) : String :=
  let declaration := Access.text ⟨f.access, .onField⟩ ++ " " ++ f.short ++
    f.value.elim "" (fun value => " = " ++ value.text) ++ signatureComment f.signature
  "\n".intercalate (f.metadata.lines ++ [declaration])

end Field

namespace Method

/-- Constructors and class initialisers are declared without a result. -/
def isInitializer (m : Method) : Bool := m.name == "<init>" || m.name == "<clinit>"

/-- The parameter of the given type at an index, with the name and the flags the method gives it. -/
def parameterText (m : Method) (type : FieldType) (index : Nat) : String :=
  let parameter := (m.parameters.getD [])[index]?
  let name := (parameter.bind Parameter.name).getD s!"var{index}"
  let flags := parameter.elim [] fun p => Access.names ⟨p.access, .onParameter⟩
  " ".intercalate (flags ++ [type.sourceForm, name])

/-- The declaration in source form; a descriptor that cannot be read stands as it is. -/
def declarationText (m : Method) : String :=
  let descriptor := (MethodDescriptor.parse m.descriptor).toOption
  let result := match descriptor with
    | some d => if m.isInitializer then "" else d.result.elim "void" FieldType.sourceForm ++ " "
    | none => ""
  let parameters := match descriptor with
    | some d =>
      let texts := d.parameters.zipIdx.map fun (type, i) => m.parameterText type i
      "(" ++ ", ".intercalate texts ++ ")"
    | none => m.descriptor
  let exceptions := if m.exceptions.isEmpty then ""
    else " throws " ++ ", ".intercalate (m.exceptions.map sourceClassName)
  Access.text ⟨m.access, .onMethod⟩ ++ " " ++ result ++ m.name ++ parameters ++ exceptions ++
    signatureComment m.signature

/-- Comments on the annotations of parameters, by the index of the parameter. -/
def parameterAnnotationComments (mark : String) (annotations : Option ParameterAnnotations) :
    List String :=
  (annotations.getD []).zipIdx.flatMap fun (uses, i) =>
    (uses.getD []).map fun use => s!"Parameter annotation {i}: {use.text}{mark}"

def localVariableAnnotationComments (names : LabelNames) (mark : String)
    (annotations : Option (List LocalVariableAnnotationUse)) : List String :=
  (annotations.getD []).map fun use => s!"Local variable annotation: {use.text names}{mark}"

/-- What follows the instructions; an entry may have several lines. -/
def comments (names : LabelNames) (m : Method) : List String :=
  m.annotationDefault.toList.map (fun value => "Annotation default: " ++ value.text) ++
    (m.parameters.getD []).zipIdx.map (fun (p, i) => s!"Parameter {i}: {p.text}") ++
    parameterAnnotationComments "" m.visibleParameterAnnotations ++
    parameterAnnotationComments " // invisible" m.invisibleParameterAnnotations ++
    (m.localVariables.getD []).map (fun v => "Local variable: " ++ v.text names) ++
    localVariableAnnotationComments names "" m.visibleLocalVariableAnnotations ++
    localVariableAnnotationComments names " // invisible" m.invisibleLocalVariableAnnotations ++
    m.tryCatchBlocks.map (fun b => "Try catch block: " ++ b.text names) ++
    [s!"Max locals: {m.maxLocals}", s!"Max stack: {m.maxStack}"]

/-- The names, and for labels that have none the places in the method. -/
def ownNames (names : LabelNames) (m : Method) : LabelNames :=
  names.merge (.ofIndices ((numberedMap m.instructions).find id))

/-- The declaration, the instructions, and the rest in comments. -/
def text (names : LabelNames) (m : Method) : String :=
  let names := m.ownNames names
  let body := (Text.lines (instructionsText names m.instructions)).map ("  " ++ ·)
  let comments := (m.comments names).flatMap fun entry => (Text.lines entry).map ("  // " ++ ·)
  "\n".intercalate (m.metadata.lines ++ [m.declarationText] ++ body ++ comments)

end Method

namespace ClassFile

def short (c : ClassFile) : String :=
  Access.declarationKeyword ⟨c.access, .onClass⟩ ++ " " ++ sourceClassName c.name

/-- An interface extends its interfaces and has no super class to show. -/
def declarationText (c : ClassFile) : String :=
  let access : Access := ⟨c.access, .onClass⟩
  let isInterface := ["interface", "@interface"].contains access.declarationKeyword
  let superName := if isInterface then none else c.superName
  let superClass := superName.elim "" (" extends " ++ sourceClassName ·)
  let interfaces := ", ".intercalate (c.interfaces.map sourceClassName)
  let inherited := if interfaces.isEmpty then ""
    else (if isInterface then " extends " else " implements ") ++ interfaces
  access.text ++ " " ++ c.short ++ superClass ++ inherited ++ signatureComment c.signature

/-- What follows the members. -/
def comments (c : ClassFile) : List String :=
  let outerMethod := if c.outerMethod.isNone ∧ c.outerMethodDescriptor.isNone then []
    else ["Outer method: " ++ c.outerMethod.getD "null" ++ c.outerMethodDescriptor.getD ""]
  c.sourceFile.toList.map ("Source file: " ++ ·) ++
    c.sourceDebug.toList.map ("Source debug: " ++ ·) ++
    c.outerClass.toList.map ("Outer class: " ++ sourceClassName ·) ++
    outerMethod ++
    c.innerClasses.map ("Inner class: " ++ ·.text) ++
    c.nestHost.toList.map ("Nest host class: " ++ sourceClassName ·) ++
    (c.nestMembers.getD []).map ("Nest member: " ++ sourceClassName ·) ++
    (c.permittedSubclasses.getD []).map ("Permitted subclass: " ++ sourceClassName ·)

/-- A member after an empty line. -/
def memberLines (text : String) : List String := "" :: (Text.lines text).map ("  " ++ ·)

def text (names : LabelNames) (c : ClassFile) : String :=
  let comments := c.comments.map ("// " ++ ·)
  "\n".intercalate ([s!"// Class version: {c.version}"] ++ c.metadata.lines ++
    [c.declarationText] ++
    c.fields.flatMap (fun f => memberLines f.text) ++
    c.methods.flatMap (fun m => memberLines (m.text names)) ++
    if comments.isEmpty then [] else "" :: comments)

end ClassFile

end ClassMatch
