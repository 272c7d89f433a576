import ClassMatch.Order.Declaration

/-!
The order of nodes of any kind.
-/
namespace ClassMatch

/-- The natural order of the nodes of a kind. Two nodes are equal in it when what the context does
not leave out is the same in both. -/
def Kind.compare : (k : Kind) → Context → k.Node → k.Node → Ordering
  | text, _, a, b => Ord.compare a b
  | label, ctx, a, b => a.compare ctx b
  | access, _, a, b => a.compare b
  | constant, _, a, b => a.compare b
  | elementValue, ctx, a, b => a.compare ctx b
  | annotationUse, ctx, a, b => a.compare ctx b
  | typeReference, _, a, b => Ord.compare a.packed b.packed
  | typeAnnotationUse, ctx, a, b => a.compare ctx b
  | localVariableAnnotationUse, ctx, a, b => a.compare ctx b
  | parameter, _, a, b => a.compare b
  | innerClass, _, a, b => a.compare b
  | rawAttribute, _, a, b => a.compare b
  | tryCatchBlock, ctx, a, b => a.compare ctx b
  | localVariable, ctx, a, b => a.compare ctx b
  | instruction, ctx, a, b => a.compare ctx b
  | field, ctx, a, b => a.compare ctx b
  | method, ctx, a, b => a.compare ctx b
  | classFile, ctx, a, b => a.compare ctx b

end ClassMatch
