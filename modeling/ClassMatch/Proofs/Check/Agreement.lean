import ClassMatch.Check.Node
import ClassMatch.Proofs.Bare
import ClassMatch.Proofs.Check.Basic
import ClassMatch.Proofs.Order.Declaration

/-!
Checks and orders agree: below classes, the check of two nodes passes exactly if they are equal in
the natural order of their kind.
-/
namespace ClassMatch

open Std

variable {trail : Trail} {ctx : Context}

namespace Kind

@[simp] theorem compare_text : Kind.compare .text ctx = Ord.compare (α := String) := rfl

@[simp] theorem compare_annotationUse :
    Kind.compare .annotationUse ctx = AnnotationUse.compare ctx := rfl

@[simp] theorem compare_typeAnnotationUse :
    Kind.compare .typeAnnotationUse ctx = TypeAnnotationUse.compare ctx := rfl

@[simp] theorem compare_localVariableAnnotationUse :
    Kind.compare .localVariableAnnotationUse ctx = LocalVariableAnnotationUse.compare ctx := rfl

@[simp] theorem compare_rawAttribute : Kind.compare .rawAttribute ctx = Attribute.compare := rfl

@[simp] theorem compare_tryCatchBlock :
    Kind.compare .tryCatchBlock ctx = TryCatchBlock.compare ctx := rfl

@[simp] theorem compare_localVariable :
    Kind.compare .localVariable ctx = LocalVariable.compare ctx := rfl

@[simp] theorem compare_innerClass : Kind.compare .innerClass ctx = InnerClass.compare := rfl

@[simp] theorem compare_constant : Kind.compare .constant ctx = Constant.compare := rfl

@[simp] theorem compare_elementValue :
    Kind.compare .elementValue ctx = ElementValue.compare ctx := rfl

@[simp] theorem compare_field : Kind.compare .field ctx = Field.compare ctx := rfl

@[simp] theorem compare_method : Kind.compare .method ctx = Method.compare ctx := rfl

end Kind

theorem Access.passes_check {a b : Access} :
    ((a.check b).run trail).passes = true ↔ a.compare b = .eq := by
  rw [Access.compare, LawfulEqCmp.compare_eq_iff_eq]
  unfold Access.check
  split <;> simp_all

theorem Parameter.passes_check {a b : Parameter} :
    ((a.check b).run trail).passes = true ↔ a.compare b = .eq := by
  simp [Parameter.check, Parameter.compare, Check.passes_all, Access.passes_check]

theorem InnerClass.passes_check {a b : InnerClass} :
    ((a.check b).run trail).passes = true ↔ a.compare b = .eq := by
  simp [InnerClass.check, InnerClass.compare, Check.passes_all, Access.passes_check]

theorem Attribute.passes_check {a b : Attribute} :
    ((a.check b).run trail).passes = true ↔ a.compare b = .eq := by
  simp [Attribute.check, Attribute.compare, Check.passes_all]

namespace AnnotationUse

theorem compare_eq_then (a b : AnnotationUse) :
    a.compare ctx b = (Ord.compare a.descriptor b.descriptor).then (a.compareElements ctx b) := by
  simp [AnnotationUse.compare, compareElements, toValue, ElementValue.compare, ElementValue.sorted,
    ElementValue.compareSorted]

theorem compareElements_of_ignored {a b : AnnotationUse}
    (h : ctx.has .ignoreAnnotationValues = true) :
    a.compareElements ctx b = .eq := by
  simp [compareElements, ElementValue.compare, ElementValue.sorted, ElementValue.compareSorted, h]

theorem passes_check {a b : AnnotationUse} :
    ((a.check ctx b).run trail).passes = true ↔ a.compare ctx b = .eq := by
  have hvalues : (((if a.compareElements ctx b = .eq then Check.pass
      else .field "values" (.fail (mismatch b.valuesText a.valuesText))).run trail).passes = true) ↔
        a.compareElements ctx b = .eq := by
    split <;> simp_all
  cases hi : ctx.has .ignoreAnnotationValues with
  | true => simp [AnnotationUse.check, compare_eq_then, Check.passes_all, hi,
      compareElements_of_ignored hi]
  | false => simp [AnnotationUse.check, compare_eq_then, Check.passes_all, hi, hvalues]

end AnnotationUse

theorem TypeAnnotationUse.passes_check {a b : TypeAnnotationUse} :
    ((a.check ctx b).run trail).passes = true ↔ a.compare ctx b = .eq := by
  simp [TypeAnnotationUse.check, TypeAnnotationUse.compare, Check.passes_all,
    AnnotationUse.passes_check, Kind.compare]

theorem LocalVariableAnnotationUse.passes_check {a b : LocalVariableAnnotationUse} :
    ((a.check ctx b).run trail).passes = true ↔ a.compare ctx b = .eq := by
  have hslots : (((if a.slots = b.slots then Check.pass
      else .field "index" (checkValue a.slots b.slots)).run trail).passes = true) ↔
        a.slots = b.slots := by
    split <;> simp_all
  simp [LocalVariableAnnotationUse.check, LocalVariableAnnotationUse.compare, Check.passes_all,
    TypeAnnotationUse.passes_check, hslots]

theorem TryCatchBlock.passes_check {a b : TryCatchBlock} :
    ((a.check ctx b).run trail).passes = true ↔ a.compare ctx b = .eq := by
  simp [TryCatchBlock.check, TryCatchBlock.compare, Check.passes_all, Kind.compare]

theorem LocalVariable.passes_check {a b : LocalVariable} :
    ((a.check ctx b).run trail).passes = true ↔ a.compare ctx b = .eq := by
  simp [LocalVariable.check, LocalVariable.compare, Check.passes_all, Kind.compare]

theorem Metadata.passes_check {a b : Metadata} :
    ((a.check ctx b).run trail).passes = true ↔ a.compare ctx b = .eq := by
  simp [Metadata.check, Metadata.compare, Check.passes_all]

theorem Entity.passes_check {a b : Entity} :
    ((a.check ctx b).run trail).passes = true ↔ a.compare ctx b = .eq := by
  simp [Entity.check, Entity.compare, Check.passes_all, Access.passes_check, Metadata.passes_check]

theorem Entity.name_of_equal {a b : Entity} (h : a.compare ctx b = .eq) :
    ctx.has .ignoreName = true ∨ a.name = b.name := by
  rw [Entity.compare, Ordering.then_eq_eq, unless_eq_eq, LawfulEqCmp.compare_eq_iff_eq] at h
  exact h.1

theorem Field.passes_check {a b : Field} :
    ((a.check ctx b).run trail).passes = true ↔ a.compare ctx b = .eq := by
  simp only [Field.check, Field.compare, Check.passes_all, List.all_cons, List.all_nil,
    Bool.and_true, Bool.and_eq_true, Bool.or_eq_true, passes_checkUnless, Check.passes_field,
    passes_checkValue, passes_checkOptional_leaf, Kind.compare_constant, Entity.passes_check,
    Ordering.then_eq_eq, unless_eq_eq, LawfulEqCmp.compare_eq_iff_eq]
  constructor
  · rintro ⟨he, hd, hv⟩
    exact ⟨Entity.name_of_equal he, hd, he, hv⟩
  · rintro ⟨-, hd, he, hv⟩
    exact ⟨he, hd, hv⟩

/-- Parameters are compared in order, and the annotations of each in any order. -/
theorem passes_checkParameterAnnotations {part : String}
    {actual expected : Option ParameterAnnotations} :
    ((checkParameterAnnotations ctx part actual expected).run trail).passes = true ↔
      compareParameterAnnotations ctx actual expected = .eq := by
  cases actual with
  | none => cases expected <;>
    simp [checkParameterAnnotations, compareParameterAnnotations, compareOptional]
  | some as => cases expected with
    | none => simp [checkParameterAnnotations, compareParameterAnnotations, compareOptional]
    | some es =>
      rw [compareParameterAnnotations, compareOptional_some, compareLists_eq_eq,
        List.forall₂_iff_zip]
      simp only [checkParameterAnnotations, Option.map_some, Option.some.injEq, Option.getD_some]
      by_cases hlen : as.length = es.length
      · rw [if_pos hlen, passes_all_zipIdx (p := fun pair => compareOptional
          (compareUnordered (AnnotationUse.compare ctx)) pair.1 pair.2 = .eq)]
        · simp [hlen]
        · simp
      · simp [hlen]

namespace Method

theorem passes_checkHeaders {a b : Method} :
    ((checkHeaders ctx a b).run trail).passes = true ↔ compareHeaders ctx a b = .eq := by
  have hparameters : ((checkInOrder .parameter ctx Parameter.check a.parameters b.parameters).run
      (trail.push (Trail.fieldCrumb "parameters"))).passes = true ↔
        compareOptional (compareLists Parameter.compare) a.parameters b.parameters = .eq :=
    @passes_checkInOrder _ ctx .parameter Parameter.check Parameter.compare
      (fun _ _ _ => Parameter.passes_check) a.parameters b.parameters
  simp only [checkHeaders, compareHeaders, Check.passes_all, List.all_cons, List.all_nil,
    Bool.and_true, Bool.and_eq_true, Bool.or_eq_true, passes_checkUnless, Check.passes_field,
    passes_checkValue, passes_checkUnordered, compareOptional_some, Kind.compare_text,
    Entity.passes_check, hparameters, passes_checkParameterAnnotations,
    Ordering.then_eq_eq, unless_eq_eq, LawfulEqCmp.compare_eq_iff_eq]
  constructor
  · rintro ⟨he, hd, hrest⟩
    exact ⟨Entity.name_of_equal he, hd, he, hrest⟩
  · rintro ⟨-, hd, he, hrest⟩
    exact ⟨he, hd, hrest⟩

theorem rangeComparator_compare (k : Kind) :
    (rangeComparator ctx k).compare ctx = k.compare ctx.forRanges := by
  unfold rangeComparator Context.forRanges
  split <;> rfl

theorem passes_checkBodies {a b : Method} :
    ((checkBodies ctx a b).run trail).passes = true ↔ compareBodies ctx a b = .eq := by
  simp [checkBodies, compareBodies, Check.passes_all, rangeComparator_compare]

theorem passes_check {a b : Method} :
    ((a.check ctx b).run trail).passes = true ↔ a.compare ctx b = .eq := by
  simp [Method.check, Method.compare, checkViews, compareViews, Check.passes_all,
    passes_checkHeaders, passes_checkBodies]

end Method

namespace Kind

/-- Below classes, two nodes pass their check, at any trail, exactly if the natural order of their
kind takes them for equal. -/
theorem passes_check_iff_equal {k : Kind} (hk : k ≠ .classFile) (ctx : Context) (trail : Trail)
    (a b : k.Node) : ((k.check ctx a b).run trail).passes = true ↔ k.compare ctx a b = .eq := by
  cases k with
  | text => simp [check, compare]
  | label => exact passes_checkLeaf
  | access => exact Access.passes_check
  | constant => exact passes_checkLeaf
  | elementValue => exact passes_checkLeaf
  | annotationUse => exact AnnotationUse.passes_check
  | typeReference => exact passes_checkLeafUsing
  | typeAnnotationUse => exact TypeAnnotationUse.passes_check
  | localVariableAnnotationUse => exact LocalVariableAnnotationUse.passes_check
  | parameter => exact Parameter.passes_check
  | innerClass => exact InnerClass.passes_check
  | rawAttribute => exact Attribute.passes_check
  | tryCatchBlock => exact TryCatchBlock.passes_check
  | localVariable => exact LocalVariable.passes_check
  | instruction => exact passes_checkLeaf
  | field => exact Field.passes_check
  | method => exact Method.passes_check
  | classFile => exact absurd rfl hk

/-- Two loops around labels of their own are equal, and so they pass. -/
theorem passes_check_of_loops :
    ((Kind.check .method .plain (Method.bare "spin" "()V" [.label ⟨0⟩, .jump 167 ⟨0⟩])
      (Method.bare "spin" "()V" [.label ⟨5⟩, .jump 167 ⟨5⟩])).run .empty).passes = true :=
  (passes_check_iff_equal (by decide) .plain .empty _ _).mpr (by decide)

end Kind

end ClassMatch
