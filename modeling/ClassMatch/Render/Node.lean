import ClassMatch.Render.Declaration
import ClassMatch.Settings.Context

/-!
Texts of nodes of any kind: a full one, which may have several lines, and a short one for summaries
and titles. What a context shows goes through its representation.
-/
namespace ClassMatch

namespace Kind

def fullText : (k : Kind) → LabelNames → k.Node → String
  | text, _, s => s
  | label, names, l => names.nameOf l
  | access, _, a => a.text
  | constant, _, c => c.text
  | elementValue, _, v => v.text
  | annotationUse, _, use => use.text
  | typeReference, _, r => r.text
  | typeAnnotationUse, _, use => use.text
  | localVariableAnnotationUse, names, use => use.text names
  | parameter, _, p => p.text
  | innerClass, _, c => c.text
  | rawAttribute, _, a => a.text
  | tryCatchBlock, names, b => b.text names
  | localVariable, names, v => v.text names
  | instruction, names, i => i.text names
  | field, _, f => f.text
  | method, names, m => m.text names
  | classFile, names, c => c.text names

def shortText : (k : Kind) → LabelNames → k.Node → String
  | annotationUse, _, use => use.short
  | typeAnnotationUse, _, use => use.short
  | localVariableAnnotationUse, _, use => use.short
  | parameter, _, p => p.short
  | innerClass, _, c => c.short
  | rawAttribute, _, a => a.kind
  | tryCatchBlock, names, b => b.short names
  | localVariable, _, v => v.short
  | field, _, f => f.short
  | method, _, m => m.declaration
  | classFile, _, c => c.short
  | text, _, s => s
  | label, names, l => names.nameOf l
  | access, _, a => a.text
  | constant, _, c => c.text
  | elementValue, _, v => v.text
  | typeReference, _, r => r.text
  | instruction, names, i => i.text names

/-- The declaration of what has one, in source form. -/
def declarationText? : (k : Kind) → k.Node → Option String
  | method, m => some m.declarationText
  | classFile, c => some c.declarationText
  | _, _ => none

end Kind

namespace Representation

def fullText (r : Representation) (k : Kind) (names : LabelNames) (node : k.Node) : String :=
  (r.full k).elim (k.fullText names node) fun text => text node names

def shortText (r : Representation) (k : Kind) (names : LabelNames) (node : k.Node) : String :=
  (r.short k).elim (k.shortText names node) fun text => text node names

end Representation

/-- Texts between square brackets. -/
def bracketed (texts : List String) : String := "[" ++ ", ".intercalate texts ++ "]"

namespace Context

/-- The full text of a node, as messages show it. -/
def full (ctx : Context) (k : Kind) (node : k.Node) : String :=
  ctx.representation.fullText k ctx.names node

/-- The short text of a node, as messages show it. -/
def short (ctx : Context) (k : Kind) (node : k.Node) : String :=
  ctx.representation.shortText k ctx.names node

/-- The short texts of a list. -/
def shortList (ctx : Context) (k : Kind) (nodes : List k.Node) : String :=
  bracketed (nodes.map (ctx.short k))

/-- The short texts of a list that may be missing. -/
def shortList? (ctx : Context) (k : Kind) (nodes : Option (List k.Node)) : String :=
  nodes.elim "null" (ctx.shortList k)

/-- The kind and the short text of a node. -/
def describe (ctx : Context) (k : Kind) (node : k.Node) : String :=
  k.title ++ ": " ++ ctx.short k node

end Context

end ClassMatch
