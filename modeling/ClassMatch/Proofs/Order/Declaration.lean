import ClassMatch.Order.Declaration
import ClassMatch.Proofs.Order.Code

/-!
The orders of access masks, parameters, inner classes and fields are total preorders, and so are
those of the parts of methods and classes. Whole methods are ordered under labels that depend on
both of them, so the order of methods is one only where labels are resolved in the same way
throughout; when the caller has fixed the indices, they are.
-/
namespace ClassMatch

open Std

instance : TransCmp Access.compare := transCmp_on Access.names Ord.compare

instance : TransCmp Parameter.compare :=
  transCmp_then (transCmp_on Parameter.name Ord.compare) <|
  transCmp_on (fun p : Parameter => ⟨p.access, .onParameter⟩) Access.compare

instance : TransCmp InnerClass.compare :=
  transCmp_then (transCmp_on InnerClass.name Ord.compare) <|
  transCmp_then (transCmp_on InnerClass.outerName Ord.compare) <|
  transCmp_then (transCmp_on InnerClass.innerName Ord.compare) <|
  transCmp_on (fun c : InnerClass => ⟨c.access, .onInnerClass⟩) Access.compare

instance (ctx : Context) : TransCmp (Metadata.compare ctx) :=
  transCmp_then (transCmp_unless ctx _ <| transCmp_on Metadata.visibleAnnotations
    (compareOptional (compareUnordered (AnnotationUse.compare ctx)))) <|
  transCmp_then (transCmp_unless ctx _ <| transCmp_on Metadata.invisibleAnnotations
    (compareOptional (compareUnordered (AnnotationUse.compare ctx)))) <|
  transCmp_then (transCmp_unless ctx _ <| transCmp_on Metadata.visibleTypeAnnotations
    (compareOptional (compareUnordered (TypeAnnotationUse.compare ctx)))) <|
  transCmp_then (transCmp_unless ctx _ <| transCmp_on Metadata.invisibleTypeAnnotations
    (compareOptional (compareUnordered (TypeAnnotationUse.compare ctx)))) <|
  transCmp_unless ctx _ <| transCmp_on Metadata.attributes
    (compareOptional (compareUnordered Attribute.compare))

instance (ctx : Context) : TransCmp (Entity.compare ctx) :=
  transCmp_then (transCmp_unless ctx _ <| transCmp_on Entity.name Ord.compare) <|
  transCmp_then (transCmp_unless ctx _ <| transCmp_on Entity.access Access.compare) <|
  transCmp_then (transCmp_unless ctx _ <| transCmp_on Entity.signature Ord.compare) <|
  transCmp_on Entity.metadata (Metadata.compare ctx)

instance (ctx : Context) : TransCmp (Field.compare ctx) :=
  transCmp_then (transCmp_unless ctx _ <| transCmp_on Field.name Ord.compare) <|
  transCmp_then (transCmp_unless ctx _ <| transCmp_on Field.descriptor Ord.compare) <|
  transCmp_then (transCmp_on Field.entity (Entity.compare ctx)) <|
  transCmp_unless ctx _ <| transCmp_on Field.value (compareOptional Constant.compare)

instance (ctx : Context) : TransCmp (compareParameterAnnotations ctx) :=
  inferInstanceAs (TransCmp (compareOptional (compareLists (compareOptional
    (compareUnordered (AnnotationUse.compare ctx))))))

namespace Method

instance (ctx : Context) : TransCmp (compareHeaders ctx) :=
  transCmp_then (transCmp_unless ctx _ <| transCmp_on Method.name Ord.compare) <|
  transCmp_then (transCmp_unless ctx _ <| transCmp_on Method.descriptor Ord.compare) <|
  transCmp_then (transCmp_on Method.entity (Entity.compare ctx)) <|
  transCmp_then (transCmp_unless ctx _ <| transCmp_on Method.exceptions
    (compareUnordered Ord.compare)) <|
  transCmp_then (transCmp_unless ctx _ <| transCmp_on Method.parameters
    (compareOptional (compareLists Parameter.compare))) <|
  transCmp_then (transCmp_unless ctx _ <| transCmp_on Method.visibleAnnotableCount
    Ord.compare) <|
  transCmp_then (transCmp_unless ctx _ <| transCmp_on Method.invisibleAnnotableCount
    Ord.compare) <|
  transCmp_then (transCmp_unless ctx _ <| transCmp_on Method.visibleParameterAnnotations
    (compareParameterAnnotations ctx)) <|
  transCmp_unless ctx _ <| transCmp_on Method.invisibleParameterAnnotations
    (compareParameterAnnotations ctx)

/-- Under one context, whichever it is, bodies are ordered well. -/
instance (ctx : Context) : TransCmp (compareBodies ctx) :=
  transCmp_then (transCmp_unless ctx _ <| transCmp_on Method.instructions
    (compareLists (Instruction.compare ctx))) <|
  transCmp_then (transCmp_unless ctx _ <| transCmp_on Method.tryCatchBlocks
    (compareUnordered (TryCatchBlock.compare ctx.forRanges))) <|
  transCmp_then (transCmp_unless ctx _ <| transCmp_on Method.maxLocals Ord.compare) <|
  transCmp_then (transCmp_unless ctx _ <| transCmp_on Method.maxStack Ord.compare) <|
  transCmp_then (transCmp_unless ctx _ <| transCmp_on Method.localVariables
    (compareOptional (compareUnordered (LocalVariable.compare ctx.forRanges)))) <|
  transCmp_then (transCmp_unless ctx _ <| transCmp_on Method.visibleLocalVariableAnnotations
    (compareOptional (compareUnordered (LocalVariableAnnotationUse.compare ctx)))) <|
  transCmp_unless ctx _ <| transCmp_on Method.invisibleLocalVariableAnnotations
    (compareOptional (compareUnordered (LocalVariableAnnotationUse.compare ctx)))

/-- Order of methods as they stand, with the labels of all bodies resolved by one context. -/
def compareResolved (ctx body : Context) (a b : Method) : Ordering :=
  (compareHeaders ctx a b).then <|
  (compareBodies body a b).then <|
  ctx.unless .ignoreAnnotationDefault
    (compareOptional (ElementValue.compare ctx) a.annotationDefault b.annotationDefault)

instance (ctx body : Context) : TransCmp (compareResolved ctx body) :=
  transCmp_then (inferInstanceAs (TransCmp (compareHeaders ctx))) <|
  transCmp_then (inferInstanceAs (TransCmp (compareBodies body))) <|
  transCmp_unless ctx _ <| transCmp_on Method.annotationDefault
    (compareOptional (ElementValue.compare ctx))

theorem compareViews_eq_compareResolved (ctx : Context) (a b : Method) :
    compareViews ctx a b =
      compareResolved ctx (ctx.forInstructions a.instructions b.instructions) a b := rfl

theorem compare_self (ctx : Context) (m : Method) : m.compare ctx m = .eq := by
  rw [Method.compare, compareViews_eq_compareResolved]
  exact ReflCmp.compare_self

end Method

namespace ClassFile

instance (ctx : Context) : TransCmp (compareHeaders ctx) :=
  transCmp_then (transCmp_on ClassFile.entity (Entity.compare ctx)) <|
  transCmp_then (transCmp_unless ctx _ <| transCmp_on ClassFile.version Ord.compare) <|
  transCmp_then (transCmp_unless ctx _ <| transCmp_on ClassFile.superName Ord.compare) <|
  transCmp_then (transCmp_unless ctx _ <| transCmp_on ClassFile.interfaces
    (compareUnordered Ord.compare)) <|
  transCmp_then (transCmp_unless ctx _ <| transCmp_on ClassFile.sourceFile Ord.compare) <|
  transCmp_then (transCmp_unless ctx _ <| transCmp_on ClassFile.sourceDebug Ord.compare) <|
  transCmp_then (transCmp_unless ctx _ <| transCmp_on ClassFile.outerClass Ord.compare) <|
  transCmp_then (transCmp_unless ctx _ <| transCmp_on ClassFile.outerMethod Ord.compare) <|
  transCmp_then (transCmp_unless ctx _ <| transCmp_on ClassFile.outerMethodDescriptor
    Ord.compare) <|
  transCmp_then (transCmp_unless ctx _ <| transCmp_on ClassFile.innerClasses
    (compareUnordered InnerClass.compare)) <|
  transCmp_then (transCmp_unless ctx _ <| transCmp_on ClassFile.nestHost Ord.compare) <|
  transCmp_then (transCmp_unless ctx _ <| transCmp_on ClassFile.nestMembers
    (compareOptional (compareUnordered Ord.compare))) <|
  transCmp_then (transCmp_unless ctx _ <| transCmp_on ClassFile.permittedSubclasses
    (compareOptional (compareUnordered Ord.compare))) <|
  transCmp_unless ctx _ <| transCmp_on ClassFile.fields (compareUnordered (Field.compare ctx))

end ClassFile

end ClassMatch
