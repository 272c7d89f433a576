import ClassMatch.Check.Declaration

/-!
The check of nodes of any kind, and the keys by which nodes are paired.
-/
namespace ClassMatch

namespace Kind

/-- The check that the actual node says the same as the expected one, apart from what the context
leaves out. -/
def check : (k : Kind) → Context → k.Node → k.Node → Check
  | text, _, actual, expected => checkValue actual expected
  | label, ctx, actual, expected => checkLeaf .label ctx actual expected
  | access, _, actual, expected => actual.check expected
  | constant, ctx, actual, expected => checkLeaf .constant ctx actual expected
  | elementValue, ctx, actual, expected => checkLeaf .elementValue ctx actual expected
  | annotationUse, ctx, actual, expected => actual.check ctx expected
  | typeReference, ctx, actual, expected => checkLeafUsing .typeReference ctx actual expected
  | typeAnnotationUse, ctx, actual, expected => actual.check ctx expected
  | localVariableAnnotationUse, ctx, actual, expected => actual.check ctx expected
  | parameter, _, actual, expected => actual.check expected
  | innerClass, _, actual, expected => actual.check expected
  | rawAttribute, _, actual, expected => actual.check expected
  | tryCatchBlock, ctx, actual, expected => actual.check ctx expected
  | localVariable, ctx, actual, expected => actual.check ctx expected
  | instruction, ctx, actual, expected => checkLeaf .instruction ctx actual expected
  | field, ctx, actual, expected => actual.check ctx expected
  | method, ctx, actual, expected => actual.check ctx expected
  | classFile, ctx, actual, expected => actual.check ctx expected

/-- How nodes of the kind are told apart in a list, if there is a usual way. -/
def key? : (k : Kind) → Option (k.Node → String)
  | annotationUse => some AnnotationUse.descriptor
  | field => some Field.name
  | method => some Method.declaration
  | classFile => some ClassFile.name
  | _ => none

end Kind

end ClassMatch
