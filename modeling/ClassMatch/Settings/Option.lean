/-!
Options of a check, each of which leaves something out of it, and sets of them.
-/
namespace ClassMatch

/-- The order of the options is the order in which a set lists them. -/
inductive CheckOption
  | ignoreName | ignoreDescriptor | ignoreAccess | ignoreSignature | ignoreValue
  | ignoreVisibleAnnotations | ignoreInvisibleAnnotations
  | ignoreVisibleTypeAnnotations | ignoreInvisibleTypeAnnotations
  | ignoreAttributes | ignoreAnnotationValues
  | ignoreVersion | ignoreSuperName | ignoreInterfaces | ignoreSourceFile | ignoreSourceDebug
  | ignoreOuterClass | ignoreOuterMethod | ignoreOuterMethodDescriptor | ignoreInnerClasses
  | ignoreNestHostClass | ignoreNestMembers | ignorePermittedSubclasses
  | ignoreFields | ignoreMethods
  | ignoreExceptions | ignoreParameters
  | ignoreVisibleAnnotableParameterCount | ignoreInvisibleAnnotableParameterCount
  | ignoreVisibleParameterAnnotations | ignoreInvisibleParameterAnnotations
  | ignoreInstructions | ignoreTryCatchBlocks | ignoreMaxLocals | ignoreMaxStack
  | ignoreLocalVariables
  | ignoreVisibleLocalVariableAnnotations | ignoreInvisibleLocalVariableAnnotations
  | ignoreAnnotationDefault | ignoreLineNumbers
  | custom (name : String)
  deriving DecidableEq

namespace CheckOption

/-- The options other than the custom ones, in order, with their names. -/
def named : List (CheckOption × String) :=
  [(ignoreName, "IgnoreName"), (ignoreDescriptor, "IgnoreDescriptor"),
    (ignoreAccess, "IgnoreAccess"), (ignoreSignature, "IgnoreSignature"),
    (ignoreValue, "IgnoreValue"),
    (ignoreVisibleAnnotations, "IgnoreVisibleAnnotations"),
    (ignoreInvisibleAnnotations, "IgnoreInvisibleAnnotations"),
    (ignoreVisibleTypeAnnotations, "IgnoreVisibleTypeAnnotations"),
    (ignoreInvisibleTypeAnnotations, "IgnoreInvisibleTypeAnnotations"),
    (ignoreAttributes, "IgnoreAttributes"),
    (ignoreAnnotationValues, "IgnoreAnnotationValues"),
    (ignoreVersion, "IgnoreVersion"), (ignoreSuperName, "IgnoreSuperName"),
    (ignoreInterfaces, "IgnoreInterfaces"), (ignoreSourceFile, "IgnoreSourceFile"),
    (ignoreSourceDebug, "IgnoreSourceDebug"), (ignoreOuterClass, "IgnoreOuterClass"),
    (ignoreOuterMethod, "IgnoreOuterMethod"),
    (ignoreOuterMethodDescriptor, "IgnoreOuterMethodDescriptor"),
    (ignoreInnerClasses, "IgnoreInnerClasses"), (ignoreNestHostClass, "IgnoreNestHostClass"),
    (ignoreNestMembers, "IgnoreNestMembers"),
    (ignorePermittedSubclasses, "IgnorePermittedSubclasses"),
    (ignoreFields, "IgnoreFields"), (ignoreMethods, "IgnoreMethods"),
    (ignoreExceptions, "IgnoreExceptions"), (ignoreParameters, "IgnoreParameters"),
    (ignoreVisibleAnnotableParameterCount, "IgnoreVisibleAnnotableParameterCount"),
    (ignoreInvisibleAnnotableParameterCount, "IgnoreInvisibleAnnotableParameterCount"),
    (ignoreVisibleParameterAnnotations, "IgnoreVisibleParameterAnnotations"),
    (ignoreInvisibleParameterAnnotations, "IgnoreInvisibleParameterAnnotations"),
    (ignoreInstructions, "IgnoreInstructions"),
    (ignoreTryCatchBlocks, "IgnoreTryCatchBlocks"), (ignoreMaxLocals, "IgnoreMaxLocals"),
    (ignoreMaxStack, "IgnoreMaxStack"), (ignoreLocalVariables, "IgnoreLocalVariables"),
    (ignoreVisibleLocalVariableAnnotations, "IgnoreVisibleLocalVariableAnnotations"),
    (ignoreInvisibleLocalVariableAnnotations, "IgnoreInvisibleLocalVariableAnnotations"),
    (ignoreAnnotationDefault, "IgnoreAnnotationDefault"),
    (ignoreLineNumbers, "IgnoreLineNumbers")]

def customName : CheckOption → String
  | custom name => name
  | _ => ""

/-- The declared order; custom options come last, ordered by their names. -/
def order (a b : CheckOption) : Ordering :=
  (compare a.ctorIdx b.ctorIdx).then (compare a.customName b.customName)

/-- An option is known by its place and its name. -/
theorem getD_named (option : CheckOption) :
    (named[option.ctorIdx]?.map Prod.fst).getD (custom option.customName) = option := by
  cases option <;> rfl

instance : Std.TransCmp order :=
  inferInstanceAs (Std.TransCmp (compareLex (compareOn CheckOption.ctorIdx) (compareOn customName)))

instance : Std.LawfulEqCmp order where
  compare_self := Std.ReflCmp.compare_self
  eq_of_compare {a b} h := by
    obtain ⟨hplace, hname⟩ := Ordering.then_eq_eq.mp h
    rw [← getD_named a, ← getD_named b, Std.LawfulEqCmp.eq_of_compare hplace,
      Std.LawfulEqCmp.eq_of_compare hname]

/-- One of two different options comes first. -/
theorem order_eq_lt_of_ne {a b : CheckOption} (hne : a ≠ b) (hnlt : a.order b ≠ .lt) :
    b.order a = .lt := by
  rw [@Std.OrientedCmp.eq_swap _ order, Ordering.swap_eq_lt]
  cases h : a.order b with
  | lt => exact absurd h hnlt
  | eq => exact absurd (Std.LawfulEqCmp.eq_of_compare h) hne
  | gt => rfl

/-- Options that are listed in their order, each of them once. -/
def Ascending (options : List CheckOption) : Prop :=
  options.Pairwise fun first second => first.order second = .lt

end CheckOption

/-- A set of options. -/
structure OptionSet where
  toList : List CheckOption
  ascending : CheckOption.Ascending toList
  deriving DecidableEq

namespace OptionSet

def empty : OptionSet := ⟨[], .nil⟩

def isEmpty (options : OptionSet) : Bool := options.toList.isEmpty

def contains (options : OptionSet) (option : CheckOption) : Bool := options.toList.contains option

/-- Puts an option into its place in an ordered list, unless it is there already. -/
def insertOrdered (option : CheckOption) : List CheckOption → List CheckOption
  | [] => [option]
  | first :: rest =>
    if option = first then first :: rest
    else if option.order first = .lt then option :: first :: rest
    else first :: insertOrdered option rest

theorem mem_insertOrdered {option other : CheckOption} {options : List CheckOption} :
    other ∈ insertOrdered option options ↔ other = option ∨ other ∈ options := by
  induction options with
  | nil => simp [insertOrdered]
  | cons first rest ih =>
    by_cases same : option = first
    · simp [insertOrdered, same]
    · by_cases less : option.order first = .lt
      · simp [insertOrdered, same, less]
      · simp only [insertOrdered, same, less, if_false, List.mem_cons, ih]
        exact or_left_comm

theorem ascending_insertOrdered {option : CheckOption} {options : List CheckOption}
    (h : CheckOption.Ascending options) : CheckOption.Ascending (insertOrdered option options) := by
  induction options with
  | nil => exact List.pairwise_singleton _ _
  | cons first rest ih =>
    obtain ⟨hfirst, hrest⟩ := List.pairwise_cons.mp h
    rw [insertOrdered]
    split
    · exact h
    · next hne =>
      split
      · next hlt =>
        refine h.cons fun other hother => ?_
        rcases List.mem_cons.mp hother with rfl | hother
        · exact hlt
        · exact Std.TransCmp.lt_trans hlt (hfirst other hother)
      · next hnlt =>
        refine (ih hrest).cons fun other hother => ?_
        rcases mem_insertOrdered.mp hother with rfl | hother
        · exact CheckOption.order_eq_lt_of_ne hne hnlt
        · exact hfirst other hother

def insert (options : OptionSet) (option : CheckOption) : OptionSet :=
  ⟨insertOrdered option options.toList, ascending_insertOrdered options.ascending⟩

theorem contains_insert (options : OptionSet) (option other : CheckOption) :
    (options.insert option).contains other = (other == option || options.contains other) := by
  simp only [contains, insert, List.contains_eq_mem, mem_insertOrdered, Bool.decide_or]
  rfl

def insertAll (options : OptionSet) (added : List CheckOption) : OptionSet :=
  added.foldl insert options

def ofList (options : List CheckOption) : OptionSet := empty.insertAll options

end OptionSet

end ClassMatch
