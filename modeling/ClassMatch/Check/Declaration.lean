import ClassMatch.Check.Code

/-!
Checks of parameters, fields, methods and classes, part by part.
-/
namespace ClassMatch

/-- The same flags are set. -/
def Access.check (actual expected : Access) : Check :=
  let notFound := expected.names.filter fun name => !actual.names.contains name
  let notExpected := actual.names.filter fun name => !expected.names.contains name
  if actual.names = expected.names then .pass
  else .fail (anyOrderMessage (shown actual.names) (shown expected.names) "names"
    (shown notFound) (shown notExpected) (!notFound.isEmpty) (!notExpected.isEmpty))

def Parameter.check (actual expected : Parameter) : Check :=
  .all [
    .field "name" (checkValue actual.name expected.name),
    .field "access" (Access.check ⟨actual.access, .onParameter⟩ ⟨expected.access, .onParameter⟩)]

def InnerClass.check (actual expected : InnerClass) : Check :=
  .all [
    .field "name" (checkValue actual.name expected.name),
    .field "outer name" (checkValue actual.outerName expected.outerName),
    .field "inner name" (checkValue actual.innerName expected.innerName),
    .field "access" (Access.check ⟨actual.access, .onInnerClass⟩ ⟨expected.access, .onInnerClass⟩)]

def Attribute.check (actual expected : Attribute) : Check :=
  .all [
    .field "type" (checkValue actual.kind expected.kind),
    .field "content" (checkValue actual.content expected.content)]

def Metadata.check (ctx : Context) (actual expected : Metadata) : Check :=
  .all [
    ctx.checkUnless .ignoreVisibleAnnotations <| .field "visible annotations" <|
      checkUnordered .annotationUse ctx actual.visibleAnnotations expected.visibleAnnotations,
    ctx.checkUnless .ignoreInvisibleAnnotations <| .field "invisible annotations" <|
      checkUnordered .annotationUse ctx actual.invisibleAnnotations expected.invisibleAnnotations,
    ctx.checkUnless .ignoreVisibleTypeAnnotations <| .field "visible type annotations" <|
      checkUnordered .typeAnnotationUse ctx actual.visibleTypeAnnotations
        expected.visibleTypeAnnotations,
    ctx.checkUnless .ignoreInvisibleTypeAnnotations <| .field "invisible type annotations" <|
      checkUnordered .typeAnnotationUse ctx actual.invisibleTypeAnnotations
        expected.invisibleTypeAnnotations,
    ctx.checkUnless .ignoreAttributes <| .field "attributes" <|
      checkUnordered .rawAttribute ctx actual.attributes expected.attributes]

def Entity.check (ctx : Context) (actual expected : Entity) : Check :=
  .all [
    ctx.checkUnless .ignoreName <| .field "name" (checkValue actual.name expected.name),
    ctx.checkUnless .ignoreAccess <| .field "access" (actual.access.check expected.access),
    ctx.checkUnless .ignoreSignature <| .field "signature" <|
      checkValue actual.signature expected.signature,
    actual.metadata.check ctx expected.metadata]

def Field.check (ctx : Context) (actual expected : Field) : Check :=
  .all [
    actual.entity.check ctx expected.entity,
    ctx.checkUnless .ignoreDescriptor <| .field "descriptor" <|
      checkValue actual.descriptor expected.descriptor,
    ctx.checkUnless .ignoreValue <| .field "value" <|
      checkOptional .constant ctx (checkLeaf .constant ctx) actual.value expected.value]

/-- The annotations of each parameter in brackets of their own. -/
def Context.parameterAnnotationsText (ctx : Context) (annotations : Option ParameterAnnotations) :
    String :=
  annotations.elim "null" fun slots => bracketed (slots.map (ctx.shortList? .annotationUse))

/-- Both give annotations for as many parameters, or neither does, and each parameter has the same
annotations in any order. -/
def checkParameterAnnotations (ctx : Context) (part : String)
    (actual expected : Option ParameterAnnotations) : Check :=
  match actual, expected with
  | none, none => .pass
  | _, _ =>
    if actual.map List.length = expected.map List.length then
      .all (((actual.getD []).zip (expected.getD [])).zipIdx.map fun ((a, e), i) =>
        .field s!"{part} at index {i}" (checkUnordered .annotationUse ctx a e))
    else .field part (.fail (mismatch (ctx.parameterAnnotationsText expected)
      (ctx.parameterAnnotationsText actual)))

namespace Method

/-- Check of all that comes before the body. -/
def checkHeaders (ctx : Context) (actual expected : Method) : Check :=
  .all [
    actual.entity.check ctx expected.entity,
    ctx.checkUnless .ignoreDescriptor <| .field "descriptor" <|
      checkValue actual.descriptor expected.descriptor,
    ctx.checkUnless .ignoreExceptions <| .field "exceptions" <|
      checkUnordered .text ctx (some actual.exceptions) (some expected.exceptions),
    ctx.checkUnless .ignoreParameters <| .field "parameters" <|
      checkInOrder .parameter ctx Parameter.check actual.parameters expected.parameters,
    ctx.checkUnless .ignoreVisibleAnnotableParameterCount <|
      .field "visible annotable parameter count" <|
        checkValue actual.visibleAnnotableCount expected.visibleAnnotableCount,
    ctx.checkUnless .ignoreInvisibleAnnotableParameterCount <|
      .field "invisible annotable parameter count" <|
        checkValue actual.invisibleAnnotableCount expected.invisibleAnnotableCount,
    ctx.checkUnless .ignoreVisibleParameterAnnotations <|
      checkParameterAnnotations ctx "visible parameter annotations"
        actual.visibleParameterAnnotations expected.visibleParameterAnnotations,
    ctx.checkUnless .ignoreInvisibleParameterAnnotations <|
      checkParameterAnnotations ctx "invisible parameter annotations"
        actual.invisibleParameterAnnotations expected.invisibleParameterAnnotations]

/-- The comparator of what is bounded by labels: while line numbers are ignored, labels are too. -/
def rangeComparator (ctx : Context) (k : Kind) : Comparator k.Node :=
  if ctx.has .ignoreLineNumbers then (Comparator.natural k).ignoringLabels else .natural k

/-- Check of the bodies under a context that knows their labels. -/
def checkBodies (ctx : Context) (actual expected : Method) : Check :=
  .all [
    ctx.checkUnless .ignoreInstructions <| .field "instructions" <|
      checkInstructions ctx actual.instructions expected.instructions,
    ctx.checkUnless .ignoreTryCatchBlocks <| .field "try catch blocks" <|
      checkAnyOrder .tryCatchBlock (rangeComparator ctx .tryCatchBlock) ctx
        (some actual.tryCatchBlocks) (some expected.tryCatchBlocks),
    ctx.checkUnless .ignoreMaxLocals <| .field "max locals" <|
      checkValue actual.maxLocals expected.maxLocals,
    ctx.checkUnless .ignoreMaxStack <| .field "max stack" <|
      checkValue actual.maxStack expected.maxStack,
    ctx.checkUnless .ignoreLocalVariables <| .field "local variables" <|
      checkAnyOrder .localVariable (rangeComparator ctx .localVariable) ctx
        actual.localVariables expected.localVariables,
    ctx.checkUnless .ignoreVisibleLocalVariableAnnotations <|
      .field "visible local variable annotations" <|
        checkUnordered .localVariableAnnotationUse ctx actual.visibleLocalVariableAnnotations
          expected.visibleLocalVariableAnnotations,
    ctx.checkUnless .ignoreInvisibleLocalVariableAnnotations <|
      .field "invisible local variable annotations" <|
        checkUnordered .localVariableAnnotationUse ctx actual.invisibleLocalVariableAnnotations
          expected.invisibleLocalVariableAnnotations]

/-- Check of two methods as they stand. -/
def checkViews (ctx : Context) (actual expected : Method) : Check :=
  .all [
    checkHeaders ctx actual expected,
    .log (ctx.pairEvents actual.instructions expected.instructions),
    checkBodies (ctx.forInstructions actual.instructions expected.instructions) actual expected,
    ctx.checkUnless .ignoreAnnotationDefault <| .field "annotation default" <|
      checkOptional .elementValue ctx (checkLeaf .elementValue ctx) actual.annotationDefault
        expected.annotationDefault]

def check (ctx : Context) (actual expected : Method) : Check :=
  .all [
    .log (ctx.viewEvents actual ++ ctx.viewEvents expected),
    checkViews ctx (ctx.view actual) (ctx.view expected)]

end Method

namespace ClassFile

/-- Check of all that comes before the members. -/
def checkHeaders (ctx : Context) (actual expected : ClassFile) : Check :=
  .all [
    actual.entity.check ctx expected.entity,
    ctx.checkUnless .ignoreVersion <| .field "version" <|
      checkValue actual.version expected.version,
    ctx.checkUnless .ignoreSuperName <| .field "super name" <|
      checkValue actual.superName expected.superName,
    ctx.checkUnless .ignoreInterfaces <| .field "interfaces" <|
      checkUnordered .text ctx (some actual.interfaces) (some expected.interfaces),
    ctx.checkUnless .ignoreSourceFile <| .field "source file" <|
      checkValue actual.sourceFile expected.sourceFile,
    ctx.checkUnless .ignoreSourceDebug <| .field "source debug" <|
      checkValue actual.sourceDebug expected.sourceDebug,
    ctx.checkUnless .ignoreOuterClass <| .field "outer class" <|
      checkValue actual.outerClass expected.outerClass,
    ctx.checkUnless .ignoreOuterMethod <| .field "outer method" <|
      checkValue actual.outerMethod expected.outerMethod,
    ctx.checkUnless .ignoreOuterMethodDescriptor <| .field "outer method descriptor" <|
      checkValue actual.outerMethodDescriptor expected.outerMethodDescriptor,
    ctx.checkUnless .ignoreInnerClasses <| .field "inner classes" <|
      checkUnordered .innerClass ctx (some actual.innerClasses) (some expected.innerClasses),
    ctx.checkUnless .ignoreNestHostClass <| .field "nest host class" <|
      checkValue actual.nestHost expected.nestHost,
    ctx.checkUnless .ignoreNestMembers <| .field "nest members" <|
      checkUnordered .text ctx actual.nestMembers expected.nestMembers,
    ctx.checkUnless .ignorePermittedSubclasses <| .field "permitted subclasses" <|
      checkUnordered .text ctx actual.permittedSubclasses expected.permittedSubclasses]

/-- Fields are paired by name, unless names are ignored. -/
def checkFields (ctx : Context) (actual expected : ClassFile) : Check :=
  if ctx.has .ignoreName then
    checkUnordered .field ctx (some actual.fields) (some expected.fields)
  else
    checkOneByOne .field ctx (Field.check ctx) Field.name (some actual.fields)
      (some expected.fields)

/-- Methods are paired by declaration, if the mode says so and no part of it is ignored. -/
def checkMethods (ctx : Context) (actual expected : ClassFile) : Check :=
  let paired := ctx.mode = .oneByOne ∧ !ctx.has .ignoreName ∧ !ctx.has .ignoreDescriptor
  .all [
    .log [.comparingMethods actual.name ctx.mode],
    if ctx.mode = .declarationsOnly then
      checkUnordered .text ctx (some actual.declarations) (some expected.declarations)
    else if paired then
      checkOneByOne .method ctx (Method.check ctx) Method.declaration (some actual.methods)
        (some expected.methods)
    else checkUnordered .method ctx (some actual.methods) (some expected.methods)]

def check (ctx : Context) (actual expected : ClassFile) : Check :=
  .all [
    checkHeaders ctx actual expected,
    ctx.checkUnless .ignoreFields <| .field "fields" (checkFields ctx actual expected),
    ctx.checkUnless .ignoreMethods <| .field "methods" (checkMethods ctx actual expected)]

end ClassFile

end ClassMatch
