import ClassMatch.Order.Code

/-!
Orders of parameters, fields, methods and classes, in which what the options ignore makes no
difference. Labels in the bodies of two methods are compared by their place in them.
-/
namespace ClassMatch

/-- Masks are compared by the names of their flags. -/
def Access.compare (a b : Access) : Ordering := Ord.compare a.names b.names

def Parameter.compare (a b : Parameter) : Ordering :=
  (Ord.compare a.name b.name).then <|
  Access.compare ⟨a.access, .onParameter⟩ ⟨b.access, .onParameter⟩

def InnerClass.compare (a b : InnerClass) : Ordering :=
  (Ord.compare a.name b.name).then <|
  (Ord.compare a.outerName b.outerName).then <|
  (Ord.compare a.innerName b.innerName).then <|
  Access.compare ⟨a.access, .onInnerClass⟩ ⟨b.access, .onInnerClass⟩

def Metadata.compare (ctx : Context) (a b : Metadata) : Ordering :=
  let annotations := compareOptional (compareUnordered (AnnotationUse.compare ctx))
  let typeAnnotations := compareOptional (compareUnordered (TypeAnnotationUse.compare ctx))
  (ctx.unless .ignoreVisibleAnnotations
    (annotations a.visibleAnnotations b.visibleAnnotations)).then <|
  (ctx.unless .ignoreInvisibleAnnotations
    (annotations a.invisibleAnnotations b.invisibleAnnotations)).then <|
  (ctx.unless .ignoreVisibleTypeAnnotations
    (typeAnnotations a.visibleTypeAnnotations b.visibleTypeAnnotations)).then <|
  (ctx.unless .ignoreInvisibleTypeAnnotations
    (typeAnnotations a.invisibleTypeAnnotations b.invisibleTypeAnnotations)).then <|
  ctx.unless .ignoreAttributes
    (compareOptional (compareUnordered Attribute.compare) a.attributes b.attributes)

/-- What classes, fields and methods have in common. -/
structure Entity where
  name : String
  access : Access
  signature : Option String
  metadata : Metadata

def Field.entity (f : Field) : Entity := ⟨f.name, ⟨f.access, .onField⟩, f.signature, f.metadata⟩
def Method.entity (m : Method) : Entity := ⟨m.name, ⟨m.access, .onMethod⟩, m.signature, m.metadata⟩
def ClassFile.entity (c : ClassFile) : Entity :=
  ⟨c.name, ⟨c.access, .onClass⟩, c.signature, c.metadata⟩

def Entity.compare (ctx : Context) (a b : Entity) : Ordering :=
  (ctx.unless .ignoreName (Ord.compare a.name b.name)).then <|
  (ctx.unless .ignoreAccess (a.access.compare b.access)).then <|
  (ctx.unless .ignoreSignature (Ord.compare a.signature b.signature)).then <|
  a.metadata.compare ctx b.metadata

def Field.compare (ctx : Context) (a b : Field) : Ordering :=
  (ctx.unless .ignoreName (Ord.compare a.name b.name)).then <|
  (ctx.unless .ignoreDescriptor (Ord.compare a.descriptor b.descriptor)).then <|
  (a.entity.compare ctx b.entity).then <|
  ctx.unless .ignoreValue (compareOptional Constant.compare a.value b.value)

/-- The context for exception ranges and local variables: while line numbers are ignored, the
labels that bound them are ignored too. -/
def Context.forRanges (ctx : Context) : Context :=
  if ctx.has .ignoreLineNumbers then ctx.ignoringLabels else ctx

def compareParameterAnnotations (ctx : Context) :
    Option ParameterAnnotations → Option ParameterAnnotations → Ordering :=
  compareOptional (compareLists (compareOptional (compareUnordered (AnnotationUse.compare ctx))))

namespace Method

/-- Order of all that comes before the body. -/
def compareHeaders (ctx : Context) (a b : Method) : Ordering :=
  (ctx.unless .ignoreName (Ord.compare a.name b.name)).then <|
  (ctx.unless .ignoreDescriptor (Ord.compare a.descriptor b.descriptor)).then <|
  (a.entity.compare ctx b.entity).then <|
  (ctx.unless .ignoreExceptions (compareUnordered Ord.compare a.exceptions b.exceptions)).then <|
  (ctx.unless .ignoreParameters
    (compareOptional (compareLists Parameter.compare) a.parameters b.parameters)).then <|
  (ctx.unless .ignoreVisibleAnnotableParameterCount
    (Ord.compare a.visibleAnnotableCount b.visibleAnnotableCount)).then <|
  (ctx.unless .ignoreInvisibleAnnotableParameterCount
    (Ord.compare a.invisibleAnnotableCount b.invisibleAnnotableCount)).then <|
  (ctx.unless .ignoreVisibleParameterAnnotations
    (compareParameterAnnotations ctx a.visibleParameterAnnotations
      b.visibleParameterAnnotations)).then <|
  ctx.unless .ignoreInvisibleParameterAnnotations
    (compareParameterAnnotations ctx a.invisibleParameterAnnotations
      b.invisibleParameterAnnotations)

/-- Order of the bodies under a context that knows their labels. -/
def compareBodies (ctx : Context) (a b : Method) : Ordering :=
  let annotations := compareOptional (compareUnordered (LocalVariableAnnotationUse.compare ctx))
  (ctx.unless .ignoreInstructions
    (compareLists (Instruction.compare ctx) a.instructions b.instructions)).then <|
  (ctx.unless .ignoreTryCatchBlocks
    (compareUnordered (TryCatchBlock.compare ctx.forRanges) a.tryCatchBlocks
      b.tryCatchBlocks)).then <|
  (ctx.unless .ignoreMaxLocals (Ord.compare a.maxLocals b.maxLocals)).then <|
  (ctx.unless .ignoreMaxStack (Ord.compare a.maxStack b.maxStack)).then <|
  (ctx.unless .ignoreLocalVariables
    (compareOptional (compareUnordered (LocalVariable.compare ctx.forRanges)) a.localVariables
      b.localVariables)).then <|
  (ctx.unless .ignoreVisibleLocalVariableAnnotations
    (annotations a.visibleLocalVariableAnnotations b.visibleLocalVariableAnnotations)).then <|
  ctx.unless .ignoreInvisibleLocalVariableAnnotations
    (annotations a.invisibleLocalVariableAnnotations b.invisibleLocalVariableAnnotations)

/-- Order of two methods as they stand. -/
def compareViews (ctx : Context) (a b : Method) : Ordering :=
  (compareHeaders ctx a b).then <|
  (compareBodies (ctx.forInstructions a.instructions b.instructions) a b).then <|
  ctx.unless .ignoreAnnotationDefault
    (compareOptional (ElementValue.compare ctx) a.annotationDefault b.annotationDefault)

def compare (ctx : Context) (a b : Method) : Ordering :=
  compareViews ctx (ctx.view a) (ctx.view b)

end Method

namespace ClassFile

/-- Order of all that comes before the methods. -/
def compareHeaders (ctx : Context) (a b : ClassFile) : Ordering :=
  let names := compareUnordered (α := String) Ord.compare
  (a.entity.compare ctx b.entity).then <|
  (ctx.unless .ignoreVersion (Ord.compare a.version b.version)).then <|
  (ctx.unless .ignoreSuperName (Ord.compare a.superName b.superName)).then <|
  (ctx.unless .ignoreInterfaces (names a.interfaces b.interfaces)).then <|
  (ctx.unless .ignoreSourceFile (Ord.compare a.sourceFile b.sourceFile)).then <|
  (ctx.unless .ignoreSourceDebug (Ord.compare a.sourceDebug b.sourceDebug)).then <|
  (ctx.unless .ignoreOuterClass (Ord.compare a.outerClass b.outerClass)).then <|
  (ctx.unless .ignoreOuterMethod (Ord.compare a.outerMethod b.outerMethod)).then <|
  (ctx.unless .ignoreOuterMethodDescriptor
    (Ord.compare a.outerMethodDescriptor b.outerMethodDescriptor)).then <|
  (ctx.unless .ignoreInnerClasses
    (compareUnordered InnerClass.compare a.innerClasses b.innerClasses)).then <|
  (ctx.unless .ignoreNestHostClass (Ord.compare a.nestHost b.nestHost)).then <|
  (ctx.unless .ignoreNestMembers (compareOptional names a.nestMembers b.nestMembers)).then <|
  (ctx.unless .ignorePermittedSubclasses
    (compareOptional names a.permittedSubclasses b.permittedSubclasses)).then <|
  ctx.unless .ignoreFields (compareUnordered (Field.compare ctx) a.fields b.fields)

def declarations (c : ClassFile) : List String := c.methods.map Method.declaration

/-- Only in the mode for declarations do the methods count as less than whole methods. -/
def compareMethods (ctx : Context) (a b : ClassFile) : Ordering :=
  match ctx.mode with
  | .declarationsOnly => compareUnordered Ord.compare a.declarations b.declarations
  | .oneByOne | .full => compareUnordered (Method.compare ctx) a.methods b.methods

def compare (ctx : Context) (a b : ClassFile) : Ordering :=
  (compareHeaders ctx a b).then (ctx.unless .ignoreMethods (compareMethods ctx a b))

end ClassFile

end ClassMatch
