import ClassMatch.Order.Node
import ClassMatch.Proofs.Bare
import ClassMatch.Proofs.Label.Resolution

/-!
The natural orders are total preorders. Below methods they are so under every context. Methods are
ordered by indices that depend on the pair, so their order, and that of classes, is a total
preorder on families in which one context resolves the labels of all methods.
-/
namespace ClassMatch

open Std

/-- On the set, the comparator orders elements from low to high, and elements that are equal to it
are in the same place. -/
structure TotalPreorderOn {α : Type} (s : Set α) (cmp : α → α → Ordering) : Prop where
  refl : ∀ a ∈ s, cmp a a = .eq
  swap : ∀ a ∈ s, ∀ b ∈ s, cmp b a = (cmp a b).swap
  trans : ∀ a ∈ s, ∀ b ∈ s, ∀ c ∈ s, (cmp a b).isLE → (cmp b c).isLE → (cmp a c).isLE
  congr : ∀ a ∈ s, ∀ b ∈ s, cmp a b = .eq → ∀ c ∈ s, cmp a c = cmp b c ∧ cmp c a = cmp c b

/-- A comparator that is a total preorder need not be the same as the given one outside the set. -/
theorem totalPreorderOn_of_eq {α : Type} {s : Set α} {cmp cmp' : α → α → Ordering}
    (ht : TransCmp cmp') (h : ∀ a ∈ s, ∀ b ∈ s, cmp a b = cmp' a b) : TotalPreorderOn s cmp where
  refl a ha := by
    rw [h a ha a ha]
    exact ReflCmp.compare_self
  swap a ha b hb := by
    rw [h a ha b hb, h b hb a ha]
    exact OrientedCmp.eq_swap
  trans a ha b hb c hc hab hbc := by
    rw [h a ha b hb] at hab
    rw [h b hb c hc] at hbc
    rw [h a ha c hc]
    exact TransCmp.isLE_trans hab hbc
  congr a ha b hb hab c hc := by
    rw [h a ha b hb] at hab
    rw [h a ha c hc, h b hb c hc, h c hc a ha, h c hc b hb]
    exact ⟨TransCmp.congr_left hab, TransCmp.congr_right hab⟩

/-- The converse: a total preorder on a set extends to all elements, those outside the set being
equal to each other and below the rest. -/
theorem TotalPreorderOn.exists_transCmp {α : Type} {s : Set α} {cmp : α → α → Ordering}
    (h : TotalPreorderOn s cmp) :
    ∃ cmp' : α → α → Ordering, TransCmp cmp' ∧ ∀ a ∈ s, ∀ b ∈ s, cmp a b = cmp' a b := by
  classical
  have hs : TransCmp fun a b : s => cmp a b :=
    { eq_swap := fun {a b} => h.swap b b.2 a a.2
      isLE_trans := fun {a b c} => h.trans a a.2 b b.2 c c.2 }
  let inside (a : α) : Option s := if ha : a ∈ s then some ⟨a, ha⟩ else none
  refine ⟨_, transCmp_on inside (compareOptional fun a b : s => cmp a b), fun a ha b hb => ?_⟩
  simp [inside, ha, hb]

/-- With fixed indices there are no contexts for single pairs of methods. -/
theorem Method.transCmp_compare {ctx : Context} (h : ctx.fixed = true) :
    TransCmp (Method.compare ctx) := by
  obtain ⟨body, hbody⟩ := @exists_resolved ctx Set.univ (.inl h)
  have heq : Method.compare ctx = fun m n => compareResolved ctx body (ctx.view m) (ctx.view n) :=
    funext₂ fun m n => hbody m trivial n trivial
  rw [heq]
  exact transCmp_on ctx.view (compareResolved ctx body)

theorem Method.totalPreorderOn_compare {ctx : Context} {methods : Set Method}
    (h : ctx.fixed = true ∨ ctx.LabelConsistent methods) :
    TotalPreorderOn methods (Method.compare ctx) := by
  obtain ⟨body, hbody⟩ := exists_resolved h
  exact totalPreorderOn_of_eq (transCmp_on ctx.view (compareResolved ctx body)) hbody

namespace ClassFile

/-- Order of the methods of two classes with the labels of all bodies resolved by one context. -/
def compareMethodsResolved (ctx body : Context) (a b : ClassFile) : Ordering :=
  match ctx.mode with
  | .declarationsOnly => compareUnordered Ord.compare a.declarations b.declarations
  | .oneByOne | .full =>
    compareUnordered (fun m n => Method.compareResolved ctx body (ctx.view m) (ctx.view n))
      a.methods b.methods

theorem transCmp_compareMethodsResolved (ctx body : Context) :
    TransCmp (compareMethodsResolved ctx body) := by
  have hmethods : TransCmp fun m n => Method.compareResolved ctx body (ctx.view m) (ctx.view n) :=
    transCmp_on ctx.view (Method.compareResolved ctx body)
  unfold compareMethodsResolved
  cases ctx.mode with
  | declarationsOnly => exact transCmp_on declarations (compareUnordered Ord.compare)
  | oneByOne => exact transCmp_on ClassFile.methods (compareUnordered _)
  | full => exact transCmp_on ClassFile.methods (compareUnordered _)

theorem totalPreorderOn_compare {ctx : Context} {classes : Set ClassFile}
    (h : ctx.fixed = true ∨ ctx.LabelConsistent {m | ∃ c ∈ classes, m ∈ c.methods}) :
    TotalPreorderOn classes (ClassFile.compare ctx) := by
  obtain ⟨body, hbody⟩ := Method.exists_resolved h
  have hheaders : TransCmp (compareHeaders ctx) := inferInstance
  have ht := transCmp_then hheaders
    (transCmp_unless ctx .ignoreMethods (transCmp_compareMethodsResolved ctx body))
  refine totalPreorderOn_of_eq ht fun a ha b hb => ?_
  have hmem (m : Method) (hm : m ∈ a.methods ++ b.methods) : ∃ c ∈ classes, m ∈ c.methods :=
    (List.mem_append.mp hm).elim (fun hm => ⟨a, ha, hm⟩) fun hm => ⟨b, hb, hm⟩
  have hmethods : compareUnordered (Method.compare ctx) a.methods b.methods =
      compareUnordered (fun m n => Method.compareResolved ctx body (ctx.view m) (ctx.view n))
        a.methods b.methods :=
    compareUnordered_congr fun m hm n hn => hbody m (hmem m hm) n (hmem n hn)
  have hresolved : compareMethods ctx a b = compareMethodsResolved ctx body a b := by
    unfold compareMethods compareMethodsResolved
    cases ctx.mode with
    | declarationsOnly => rfl
    | oneByOne => exact hmethods
    | full => exact hmethods
  rw [compare, hresolved]

end ClassFile

namespace Kind

theorem transCmp_compare {k : Kind} (ctx : Context) (hm : k ≠ .method) (hc : k ≠ .classFile) :
    TransCmp (k.compare ctx) := by
  cases k with
  | text => exact inferInstanceAs (TransOrd String)
  | label => exact inferInstanceAs (TransCmp (Label.compare ctx))
  | access => exact inferInstanceAs (TransCmp Access.compare)
  | constant => exact inferInstanceAs (TransCmp Constant.compare)
  | elementValue => exact inferInstanceAs (TransCmp (ElementValue.compare ctx))
  | annotationUse => exact inferInstanceAs (TransCmp (AnnotationUse.compare ctx))
  | typeReference => exact transCmp_on TypeReference.packed Ord.compare
  | typeAnnotationUse => exact inferInstanceAs (TransCmp (TypeAnnotationUse.compare ctx))
  | localVariableAnnotationUse =>
    exact inferInstanceAs (TransCmp (LocalVariableAnnotationUse.compare ctx))
  | parameter => exact inferInstanceAs (TransCmp Parameter.compare)
  | innerClass => exact inferInstanceAs (TransCmp InnerClass.compare)
  | rawAttribute => exact inferInstanceAs (TransCmp Attribute.compare)
  | tryCatchBlock => exact inferInstanceAs (TransCmp (TryCatchBlock.compare ctx))
  | localVariable => exact inferInstanceAs (TransCmp (LocalVariable.compare ctx))
  | instruction => exact inferInstanceAs (TransCmp (Instruction.compare ctx))
  | field => exact inferInstanceAs (TransCmp (Field.compare ctx))
  | method => exact absurd rfl hm
  | classFile => exact absurd rfl hc

/-- The methods that a comparison of the node looks at. -/
def methods : (k : Kind) → k.Node → List Method
  | method, m => [m]
  | classFile, c => c.methods
  | _, _ => []

/-- Every natural order is a total preorder: below methods always, on methods and classes when the
indices are fixed or the labels of all methods are consistent. -/
theorem totalPreorderOn_naturalOrder (k : Kind) (ctx : Context) (nodes : Set k.Node)
    (h : k = .method ∨ k = .classFile →
      ctx.fixed = true ∨ ctx.LabelConsistent {m | ∃ n ∈ nodes, m ∈ k.methods n}) :
    TotalPreorderOn nodes (k.compare ctx) := by
  cases k with
  | method =>
    have hmethods : {m | ∃ n ∈ nodes, m ∈ Kind.methods .method n} = nodes := by
      ext m
      simp [methods]
    rw [hmethods] at h
    exact Method.totalPreorderOn_compare (h (.inl rfl))
  | classFile => exact ClassFile.totalPreorderOn_compare (h (.inr rfl))
  | _ => exact totalPreorderOn_of_eq (transCmp_compare ctx nofun nofun) fun _ _ _ _ => rfl

/-- Two methods that place their common label first. -/
theorem totalPreorderOn_of_shared_label :
    TotalPreorderOn {m | m ∈ [Method.bare "m" "()V" [.label ⟨0⟩, .jump 167 ⟨0⟩],
      Method.bare "m" "()V" [.label ⟨0⟩, .label ⟨1⟩, .jump 167 ⟨1⟩]]}
      (Kind.compare .method .plain) := by
  refine totalPreorderOn_naturalOrder .method .plain _ fun _ => .inr ?_
  have hlist : ∀ m ∈ [Method.bare "m" "()V" [.label ⟨0⟩, .jump 167 ⟨0⟩],
      Method.bare "m" "()V" [.label ⟨0⟩, .label ⟨1⟩, .jump 167 ⟨1⟩]],
      ∀ n ∈ [Method.bare "m" "()V" [.label ⟨0⟩, .jump 167 ⟨0⟩],
        Method.bare "m" "()V" [.label ⟨0⟩, .label ⟨1⟩, .jump 167 ⟨1⟩]],
      ∀ l ∈ (Context.plain.view m).labels, l ∈ (Context.plain.view n).labels →
        ordinals (Context.plain.view m).instructions l =
          ordinals (Context.plain.view n).instructions l := by
    decide
  rintro m ⟨_, hm, hm'⟩ n ⟨_, hn, hn'⟩
  rw [List.mem_singleton.mp hm', List.mem_singleton.mp hn']
  exact hlist _ hm _ hn

end Kind

end ClassMatch
