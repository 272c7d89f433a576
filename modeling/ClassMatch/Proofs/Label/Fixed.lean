import ClassMatch.Proofs.Check.Class
import ClassMatch.Proofs.LineNumbers.Noise

/-!
Indices that the caller has fixed. Labels are judged by them and by nothing else: any label may
stand for another one with the same index, as long as different labels of a node stay different.
-/
namespace ClassMatch

variable {ctx : Context} {f g : Label → Label}

/-- The labels in the list are replaced by others of the same indices, one to one. -/
structure Context.KeepsIndices (ctx : Context) (f : Label → Label) (labels : List Label) :
    Prop where
  injective : Set.InjOn f {l | l ∈ labels}
  indices : ∀ l ∈ labels, ctx.indices (f l) = ctx.indices l

namespace Context.KeepsIndices

theorem subset {labels labels' : List Label} (h : ctx.KeepsIndices f labels')
    (hs : ∀ l ∈ labels, l ∈ labels') : ctx.KeepsIndices f labels :=
  ⟨h.injective.mono hs, fun l hl => h.indices l (hs l hl)⟩

theorem toMatches {labels : List Label} (h : ctx.KeepsIndices f labels) :
    ctx.Matches ctx f labels :=
  ⟨rfl, h.indices⟩

end Context.KeepsIndices

namespace Method

theorem view_relabel {m : Method} (hf : Set.InjOn f {l | l ∈ m.labels}) :
    ctx.view (m.relabel f) = (ctx.view m).relabel f := by
  unfold Context.view
  split
  · exact withoutLineNumbers_relabel hf
  · rfl

theorem mem_labels_of_view {m : Method} {l : Label} (h : l ∈ (ctx.view m).labels) :
    l ∈ m.labels := by
  unfold Context.view at h
  split at h
  · exact mem_labels_of_withoutLineNumbers h
  · exact h

/-- The instruction lists have no say in what the labels are. -/
theorem compare_relabel {a b : Method} (hfixed : ctx.fixed = true)
    (ha : ctx.KeepsIndices f a.labels) (hb : ctx.KeepsIndices g b.labels) :
    (a.relabel f).compare ctx (b.relabel g) = a.compare ctx b := by
  have hcontext (as bs : List Instruction) : ctx.forInstructions as bs = ctx := if_pos hfixed
  have hbodies : compareBodies ctx ((ctx.view a).relabel f) ((ctx.view b).relabel g) =
      compareBodies ctx (ctx.view a) (ctx.view b) :=
    compareBodies_relabel (ha.toMatches.subset fun _ => mem_labels_of_view)
      (hb.toMatches.subset fun _ => mem_labels_of_view)
  rw [compare, view_relabel ha.injective, view_relabel hb.injective, compareViews, hcontext,
    hbodies, compare, compareViews, hcontext]
  rfl

/-- The second method is the first one with other labels of the same indices. -/
def Relabelled (ctx : Context) : Method → Method → Prop :=
  ComesOf relabel fun f m => ctx.KeepsIndices f m.labels

theorem Relabelled.declaration_eq (m m' : Method) (h : Relabelled ctx m m') :
    m.declaration = m'.declaration := by
  obtain ⟨f, -, rfl⟩ := h
  rfl

theorem Relabelled.compare_eq (hfixed : ctx.fixed = true) (m m' n n' : Method)
    (hm : Relabelled ctx m m') (hn : Relabelled ctx n n') :
    m.compare ctx n = m'.compare ctx n' := by
  obtain ⟨f, hf, rfl⟩ := hm
  obtain ⟨g, hg, rfl⟩ := hn
  exact (compare_relabel hfixed hf hg).symm

end Method

namespace ClassFile

/-- Labels occur in the methods, and nowhere else. -/
def relabel (f : Label → Label) (c : ClassFile) : ClassFile :=
  { c with methods := c.methods.map (Method.relabel f) }

def labels (c : ClassFile) : List Label := c.methods.flatMap Method.labels

theorem declarations_relabel (c : ClassFile) : (c.relabel f).declarations = c.declarations := by
  rw [declarations, relabel, List.map_map]
  rfl

theorem relabelled_methods {c : ClassFile} (h : ctx.KeepsIndices f c.labels) :
    List.Forall₂ (Method.Relabelled ctx) c.methods (c.relabel f).methods :=
  forall₂_comesOf fun m hm => h.subset fun _ hl => List.mem_flatMap.mpr ⟨m, hm, hl⟩

section Fixed

variable {a b : ClassFile} {trail : Trail} (hfixed : ctx.fixed = true)
  (ha : ctx.KeepsIndices f a.labels) (hb : ctx.KeepsIndices g b.labels)

include hfixed ha hb

theorem compareUnordered_methods_relabel :
    compareUnordered (Method.compare ctx) (a.relabel f).methods (b.relabel g).methods =
      compareUnordered (Method.compare ctx) a.methods b.methods :=
  (compareUnordered_related (Method.Relabelled.compare_eq hfixed) (relabelled_methods ha)
    (relabelled_methods hb)).symm

theorem pairedMethods_relabel :
    (a.relabel f).PairedMethods ctx (b.relabel g) ↔ a.PairedMethods ctx b := by
  have hequal (m m' n n' : Method) (hm : Method.Relabelled ctx m m')
      (hn : Method.Relabelled ctx n n') :
      m'.compare ctx n' = .eq ↔ m.compare ctx n = .eq := by
    rw [Method.Relabelled.compare_eq hfixed m m' n n' hm hn]
  exact forall_pairsByKey_iff Method.Relabelled.declaration_eq hequal (relabelled_methods ha)
    (relabelled_methods hb)

theorem compare_relabel : (a.relabel f).compare ctx (b.relabel g) = a.compare ctx b := by
  have hmethods : compareMethods ctx (a.relabel f) (b.relabel g) = compareMethods ctx a b := by
    unfold compareMethods
    rw [compareUnordered_methods_relabel hfixed ha hb, declarations_relabel, declarations_relabel]
  rw [compare, hmethods]
  rfl

theorem passes_checkMethods_relabel (hi : ctx.has .ignoreMethods = false) :
    ((checkMethods ctx (a.relabel f) (b.relabel g)).run trail).passes = true ↔
      ((checkMethods ctx a b).run trail).passes = true := by
  by_cases hm : ctx.mode = .declarationsOnly
  · rw [passes_checkMethods_of_declarations hm, passes_checkMethods_of_declarations hm,
      declarations_relabel, declarations_relabel]
  by_cases hp : ctx.PairsMethods
  · rw [passes_checkMethods_of_pairs hp, passes_checkMethods_of_pairs hp, declarations_relabel,
      declarations_relabel, pairedMethods_relabel hfixed ha hb]
  · rw [passes_checkMethods_of_unpaired hi hm hp, passes_checkMethods_of_unpaired hi hm hp,
      compareUnordered_methods_relabel hfixed ha hb]

theorem passes_check_relabel :
    (((a.relabel f).check ctx (b.relabel g)).run trail).passes =
      ((a.check ctx b).run trail).passes := by
  rw [Bool.eq_iff_iff, passes_check_iff_parts, passes_check_iff_parts]
  refine and_congr_right' (and_congr_right' ?_)
  cases hi : ctx.has .ignoreMethods with
  | true => simp
  | false => rw [passes_checkMethods_relabel hfixed ha hb hi]

end Fixed

end ClassFile

namespace Kind

/-- What becomes of a node when its labels are replaced; most kinds have none. -/
def relabel (f : Label → Label) : (k : Kind) → k.Node → k.Node
  | label, l => f l
  | localVariableAnnotationUse, use => LocalVariableAnnotationUse.relabel f use
  | tryCatchBlock, block => TryCatchBlock.relabel f block
  | localVariable, v => LocalVariable.relabel f v
  | instruction, i => Instruction.relabel f i
  | method, m => Method.relabel f m
  | classFile, c => ClassFile.relabel f c
  | _, node => node

/-- All labels that occur in a node. -/
def labels : (k : Kind) → k.Node → List Label
  | label, l => [l]
  | localVariableAnnotationUse, use => LocalVariableAnnotationUse.labels use
  | tryCatchBlock, block => TryCatchBlock.labels block
  | localVariable, v => LocalVariable.labels v
  | instruction, i => Instruction.labels i
  | method, m => Method.labels m
  | classFile, c => ClassFile.labels c
  | _, _ => []

theorem compare_relabel {k : Kind} (hfixed : ctx.fixed = true) {a b : k.Node}
    (ha : ctx.KeepsIndices f (k.labels a)) (hb : ctx.KeepsIndices g (k.labels b)) :
    k.compare ctx (k.relabel f a) (k.relabel g b) = k.compare ctx a b := by
  cases k with
  | label => exact Label.compare_relabel ha.toMatches hb.toMatches
  | localVariableAnnotationUse =>
    exact LocalVariableAnnotationUse.compare_relabel ha.toMatches hb.toMatches
  | tryCatchBlock => exact TryCatchBlock.compare_relabel ha.toMatches hb.toMatches
  | localVariable => exact LocalVariable.compare_relabel ha.toMatches hb.toMatches
  | instruction => exact Instruction.compare_relabel ha.toMatches hb.toMatches
  | method => exact Method.compare_relabel hfixed ha hb
  | classFile => exact ClassFile.compare_relabel hfixed ha hb
  -- What is left has no labels.
  | _ => rfl

/-- Under fixed indices, both nodes may get other labels of the same indices, whether or not line
numbers count: they compare as before, and pass their check where they did before. -/
theorem unchanged_by_relabelling {k : Kind} (hfixed : ctx.fixed = true) {a b : k.Node}
    (ha : ctx.KeepsIndices f (k.labels a)) (hb : ctx.KeepsIndices g (k.labels b)) :
    k.compare ctx (k.relabel f a) (k.relabel g b) = k.compare ctx a b ∧ ∀ trail : Trail,
      ((k.check ctx (k.relabel f a) (k.relabel g b)).run trail).passes =
        ((k.check ctx a b).run trail).passes := by
  have hcompare := compare_relabel hfixed ha hb
  refine ⟨hcompare, fun trail => ?_⟩
  by_cases hk : k = .classFile
  · subst hk
    exact ClassFile.passes_check_relabel hfixed ha hb
  · rw [Bool.eq_iff_iff, passes_check_iff_equal hk, passes_check_iff_equal hk, hcompare]

/-- Two labels have the same index if both ids are even, or both are odd. -/
def byParity : Context :=
  { Context.plain with
    options := .ofList [.ignoreLineNumbers], indices := fun l => some (l.id % 2), fixed := true }

/-- A class with one method, which places a label and jumps to the next one. -/
def numberedClass (lines : List Instruction) : ClassFile :=
  .bare "C" [] [.bare "m" "()V" (.label ⟨0⟩ :: lines ++ [.jump 167 ⟨1⟩])]

/-- A line number that only one of the two has makes no difference, nor do labels of their own. -/
theorem unchanged_by_relabelling_of_jump :
    ((Kind.check .classFile byParity
      ((numberedClass [.lineNumber 7 ⟨0⟩]).relabel fun l => ⟨l.id + 2⟩)
      ((numberedClass []).relabel fun l => ⟨l.id + 4⟩)).run .empty).passes = true := by
  have hkeeps (n : Nat) (hn : n % 2 = 0) (labels : List Label) :
      byParity.KeepsIndices (fun l => ⟨l.id + n⟩) labels :=
    ⟨fun l _ m _ h => congrArg Label.mk (by simpa using h), fun l _ => by simp [byParity]; omega⟩
  have h := (@unchanged_by_relabelling byParity _ _ .classFile rfl
    (numberedClass [.lineNumber 7 ⟨0⟩]) (numberedClass []) (hkeeps 2 rfl _) (hkeeps 4 rfl _)).2
  exact (h .empty).trans (by decide)

end Kind

end ClassMatch
