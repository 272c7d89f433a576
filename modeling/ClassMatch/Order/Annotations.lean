import ClassMatch.Order.Basic

/-!
Orders of annotations and of the values of their elements. The order in which an annotation gives
its elements makes no difference: they are sorted by name, at every depth, before anything is
compared.
-/
namespace ClassMatch

/-- Puts an element into its place by name, behind others of the same name. -/
def sortElements {α : Type} : List (String × α) → List (String × α) :=
  sortBy fun a b => compare a.1 b.1

namespace ElementValue

mutual

/-- The value with the elements of every nested annotation sorted by name. -/
def sorted : ElementValue → ElementValue
  | nested descriptor elements => nested descriptor (sortElements (sortedElements elements))
  | array values => array (sortedValues values)
  | value => value

def sortedElements : List (String × ElementValue) → List (String × ElementValue)
  | [] => []
  | (name, value) :: elements => (name, value.sorted) :: sortedElements elements

def sortedValues : List ElementValue → List ElementValue
  | [] => []
  | value :: values => value.sorted :: sortedValues values

end

mutual

/-- Order of values whose elements are sorted; without `deep`, nested annotations are compared by
their descriptors alone. Values of different kinds are ordered by kind. -/
def compareSorted (deep : Bool) : ElementValue → ElementValue → Ordering
  | byte a, byte b => compare a b
  | boolean a, boolean b => compare a b
  | char a, char b => compare a b
  | short a, short b => compare a b
  | int a, int b => compare a b
  | long a, long b => compare a b
  | float a, float b => a.totalOrder b
  | double a, double b => a.totalOrder b
  | string a, string b => compare a b
  | type a, type b => compare a b
  | enumConstant d n, enumConstant d' n' => (compare d d').then (compare n n')
  | nested d es, nested d' es' =>
    (compare d d').then (if deep then
      (compare es.length es'.length).then (compareSortedElements deep es es') else .eq)
  | array vs, array vs' => (compare vs.length vs'.length).then (compareSortedValues deep vs vs')
  | a, b => compare a.rank b.rank

def compareSortedElements (deep : Bool) :
    List (String × ElementValue) → List (String × ElementValue) → Ordering
  | (n, v) :: es, (n', v') :: es' =>
    ((compare n n').then (compareSorted deep v v')).then (compareSortedElements deep es es')
  | _, _ => .eq

def compareSortedValues (deep : Bool) : List ElementValue → List ElementValue → Ordering
  | v :: vs, v' :: vs' => (compareSorted deep v v').then (compareSortedValues deep vs vs')
  | _, _ => .eq

end

def compare (ctx : Context) (a b : ElementValue) : Ordering :=
  compareSorted (!ctx.has .ignoreAnnotationValues) a.sorted b.sorted

end ElementValue

/-- Annotations are compared like values that hold them. -/
def AnnotationUse.toValue (use : AnnotationUse) : ElementValue :=
  .nested use.descriptor use.elements

/-- Order of the elements alone. -/
def AnnotationUse.compareElements (ctx : Context) (a b : AnnotationUse) : Ordering :=
  ElementValue.compare ctx (.nested "" a.elements) (.nested "" b.elements)

def AnnotationUse.compare (ctx : Context) (a b : AnnotationUse) : Ordering :=
  a.toValue.compare ctx b.toValue

namespace TypeAnnotationUse

def compare (ctx : Context) (a b : TypeAnnotationUse) : Ordering :=
  (a.use.compare ctx b.use).then <|
  (Ord.compare a.target.packed b.target.packed).then <|
  Ord.compare a.path b.path

end TypeAnnotationUse

/-- Labels are compared by index, and those without index come first. -/
def Label.compare (ctx : Context) (a b : Label) : Ordering :=
  Ord.compare (ctx.indices a) (ctx.indices b)

def LocalVariableAnnotationUse.compare (ctx : Context) (a b : LocalVariableAnnotationUse) :
    Ordering :=
  (a.typeUse.compare ctx b.typeUse).then <|
  (compareLists (Label.compare ctx) a.starts b.starts).then <|
  (compareLists (Label.compare ctx) a.ends b.ends).then <|
  Ord.compare a.slots b.slots

def Attribute.compare (a b : Attribute) : Ordering :=
  (Ord.compare a.kind b.kind).then (Ord.compare a.content b.content)

end ClassMatch
