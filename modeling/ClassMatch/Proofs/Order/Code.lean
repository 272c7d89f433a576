import ClassMatch.Order.Code
import ClassMatch.Proofs.Order.Annotations

/-!
The orders of constants, frame values, instructions and of what is bounded by labels are total
preorders, whatever indices the context gives to labels.
-/
namespace ClassMatch

open Std Number

instance : TransCmp Handle.compare :=
  transCmp_then (transCmp_on Handle.tag Ord.compare) <|
  transCmp_then (transCmp_on Handle.owner Ord.compare) <|
  transCmp_then (transCmp_on Handle.name Ord.compare) <|
  transCmp_then (transCmp_on Handle.descriptor Ord.compare) <|
  transCmp_on Handle.isInterface Ord.compare

namespace Constant

theorem compare_eq_rank_then (a b : Constant) :
    a.compare b = (Ord.compare a.rank b.rank).then (a.compare b) := by
  cases a <;> cases b <;> rfl

instance : TransCmp Constant.compare := by
  rw [funext₂ compare_eq_rank_then]
  apply transCmp_of_kinds
  intro a
  cases a with
  | int =>
    exact ⟨Int32, .int, fun b h => by cases b <;> simp_all [rank],
      inferInstanceAs (TransOrd Int32)⟩
  | float =>
    exact ⟨Binary32, .float, fun b h => by cases b <;> simp_all [rank],
      inferInstanceAs (TransCmp Binary32.totalOrder)⟩
  | long =>
    exact ⟨Int64, .long, fun b h => by cases b <;> simp_all [rank],
      inferInstanceAs (TransOrd Int64)⟩
  | double =>
    exact ⟨Binary64, .double, fun b h => by cases b <;> simp_all [rank],
      inferInstanceAs (TransCmp Binary64.totalOrder)⟩
  | string =>
    exact ⟨String, .string, fun b h => by cases b <;> simp_all [rank],
      inferInstanceAs (TransOrd String)⟩
  | type =>
    exact ⟨String, .type, fun b h => by cases b <;> simp_all [rank],
      inferInstanceAs (TransOrd String)⟩
  | handle =>
    exact ⟨Handle, .handle, fun b h => by cases b <;> simp_all [rank],
      inferInstanceAs (TransCmp Handle.compare)⟩

end Constant

namespace FrameValue

theorem compare_eq_rank_then (ctx : Context) (a b : FrameValue) :
    a.compare ctx b = (Ord.compare a.rank b.rank).then (a.compare ctx b) := by
  cases a <;> cases b <;> rfl

instance (ctx : Context) : TransCmp (FrameValue.compare ctx) := by
  rw [funext₂ (compare_eq_rank_then ctx)]
  apply transCmp_of_kinds
  intro a
  cases a with
  | object =>
    exact ⟨String, .object, fun b h => by cases b <;> simp_all [rank],
      inferInstanceAs (TransOrd String)⟩
  | uninitialized =>
    exact ⟨Label, .uninitialized, fun b h => by cases b <;> simp_all [rank],
      inferInstanceAs (TransCmp (Label.compare ctx))⟩
  | top | integer | float | double | long | null | uninitializedThis =>
    exact made_of_alone (fun b h => by cases b <;> simp_all [rank]) rfl

end FrameValue

namespace Instruction

/-- Order of the opcodes and operands of two instructions of the same shape. -/
def compareParts (ctx : Context) (a b : Instruction) : Ordering :=
  (Ord.compare a.opcode? b.opcode?).then (a.compareOperands ctx b)

/-- Instructions of one shape are ordered by opcode, and then as their operands are. -/
theorem transCmp_shape {α : Type} {ctx : Context} {make : α → Instruction}
    (h : TransCmp fun x y => (make x).compareOperands ctx (make y)) :
    TransCmp fun x y => (make x).compareParts ctx (make y) :=
  transCmp_then (transCmp_on (fun x => (make x).opcode?) Ord.compare) h

instance (ctx : Context) : TransCmp (Instruction.compare ctx) := by
  suffices h : TransCmp fun a b => (Ord.compare a.rank b.rank).then (compareParts ctx a b) from h
  apply transCmp_of_kinds
  intro a
  cases a with
  | plain =>
    exact ⟨UInt8, .plain, fun b h => by cases b <;> simp_all [rank], transCmp_shape transCmp_eq⟩
  | int =>
    exact ⟨UInt8 × Int32, fun x => .int x.1 x.2, fun b h => by cases b <;> simp_all [rank],
      transCmp_shape (transCmp_on Prod.snd Ord.compare)⟩
  | var =>
    exact ⟨UInt8 × UInt16, fun x => .var x.1 x.2, fun b h => by cases b <;> simp_all [rank],
      transCmp_shape (transCmp_on Prod.snd Ord.compare)⟩
  | type =>
    exact ⟨UInt8 × String, fun x => .type x.1 x.2, fun b h => by cases b <;> simp_all [rank],
      transCmp_shape (transCmp_on Prod.snd Ord.compare)⟩
  | field =>
    exact ⟨UInt8 × String × String × String, fun (op, owner, name, descriptor) =>
      .field op owner name descriptor, fun b h => by cases b <;> simp_all [rank],
      transCmp_shape <|
      transCmp_then (transCmp_on (Prod.fst ∘ Prod.snd) Ord.compare) <|
      transCmp_then (transCmp_on (Prod.fst ∘ Prod.snd ∘ Prod.snd) Ord.compare) <|
      transCmp_on (Prod.snd ∘ Prod.snd ∘ Prod.snd) Ord.compare⟩
  | method =>
    exact ⟨UInt8 × String × String × String × Bool,
      fun (op, owner, name, descriptor, isInterface) =>
        .method op owner name descriptor isInterface,
      fun b h => by cases b <;> simp_all [rank], transCmp_shape <|
      transCmp_then (transCmp_on (Prod.fst ∘ Prod.snd) Ord.compare) <|
      transCmp_then (transCmp_on (Prod.fst ∘ Prod.snd ∘ Prod.snd) Ord.compare) <|
      transCmp_then (transCmp_on (Prod.fst ∘ Prod.snd ∘ Prod.snd ∘ Prod.snd) Ord.compare) <|
      transCmp_on (Prod.snd ∘ Prod.snd ∘ Prod.snd ∘ Prod.snd) Ord.compare⟩
  | invokeDynamic =>
    exact ⟨String × String × Handle × List Constant, fun (name, descriptor, bootstrap, arguments) =>
      .invokeDynamic name descriptor bootstrap arguments, fun b h => by cases b <;> simp_all [rank],
      transCmp_shape <|
      transCmp_then (transCmp_on (Prod.fst) Ord.compare) <|
      transCmp_then (transCmp_on (Prod.fst ∘ Prod.snd) Ord.compare) <|
      transCmp_then (transCmp_on (Prod.fst ∘ Prod.snd ∘ Prod.snd) Handle.compare) <|
      transCmp_on (Prod.snd ∘ Prod.snd ∘ Prod.snd) (compareLists Constant.compare)⟩
  | jump =>
    exact ⟨UInt8 × Label, fun x => .jump x.1 x.2, fun b h => by cases b <;> simp_all [rank],
      transCmp_shape (transCmp_on Prod.snd (Label.compare ctx))⟩
  | label =>
    exact ⟨Label, .label, fun b h => by cases b <;> simp_all [rank],
      transCmp_shape (inferInstanceAs (TransCmp (Label.compare ctx)))⟩
  | ldc =>
    exact ⟨Constant, .ldc, fun b h => by cases b <;> simp_all [rank],
      transCmp_shape (inferInstanceAs (TransCmp Constant.compare))⟩
  | iinc =>
    exact ⟨UInt16 × Int16, fun x => .iinc x.1 x.2, fun b h => by cases b <;> simp_all [rank],
      transCmp_shape <|
      transCmp_then (transCmp_on Prod.fst Ord.compare) (transCmp_on Prod.snd Ord.compare)⟩
  | tableSwitch =>
    exact ⟨Int32 × Int32 × Label × List Label, fun (min, max, default, targets) =>
      .tableSwitch min max default targets, fun b h => by cases b <;> simp_all [rank],
      transCmp_shape <|
      transCmp_then (transCmp_on (Prod.fst) Ord.compare) <|
      transCmp_then (transCmp_on (Prod.fst ∘ Prod.snd) Ord.compare) <|
      transCmp_then (transCmp_on (Prod.fst ∘ Prod.snd ∘ Prod.snd) (Label.compare ctx)) <|
      transCmp_on (Prod.snd ∘ Prod.snd ∘ Prod.snd) (compareLists (Label.compare ctx))⟩
  | lookupSwitch =>
    exact ⟨Label × List Int32 × List Label, fun (default, keys, targets) =>
      .lookupSwitch default keys targets, fun b h => by cases b <;> simp_all [rank],
      transCmp_shape <|
      transCmp_then (transCmp_on (Prod.fst) (Label.compare ctx)) <|
      transCmp_then (transCmp_on (Prod.fst ∘ Prod.snd) Ord.compare) <|
      transCmp_on (Prod.snd ∘ Prod.snd) (compareLists (Label.compare ctx))⟩
  | multiNewArray =>
    exact ⟨String × UInt8, fun x => .multiNewArray x.1 x.2,
      fun b h => by cases b <;> simp_all [rank], transCmp_shape <|
      transCmp_then (transCmp_on Prod.fst Ord.compare) (transCmp_on Prod.snd Ord.compare)⟩
  | frame =>
    exact ⟨FrameKind × List FrameValue × List FrameValue, fun (kind, locals, stack) =>
      .frame kind locals stack, fun b h => by cases b <;> simp_all [rank],
      transCmp_shape <|
      transCmp_then (transCmp_on (FrameKind.rank ∘ Prod.fst) Ord.compare) <|
      transCmp_then (transCmp_on (Prod.fst ∘ Prod.snd) (compareLists (FrameValue.compare ctx))) <|
      transCmp_on (Prod.snd ∘ Prod.snd) (compareLists (FrameValue.compare ctx))⟩
  | lineNumber =>
    exact ⟨UInt32 × Label, fun x => .lineNumber x.1 x.2, fun b h => by cases b <;> simp_all [rank],
      transCmp_shape <|
      transCmp_then (transCmp_on Prod.fst Ord.compare) (transCmp_on Prod.snd (Label.compare ctx))⟩

end Instruction

instance (ctx : Context) : TransCmp (TryCatchBlock.compare ctx) :=
  transCmp_then (transCmp_on TryCatchBlock.start (Label.compare ctx)) <|
  transCmp_then (transCmp_on TryCatchBlock.stop (Label.compare ctx)) <|
  transCmp_then (transCmp_on TryCatchBlock.handler (Label.compare ctx)) <|
  transCmp_then (transCmp_on TryCatchBlock.catchType Ord.compare) <|
  transCmp_then (transCmp_unless ctx _ <| transCmp_on TryCatchBlock.visibleTypeAnnotations
    (compareOptional (compareUnordered (TypeAnnotationUse.compare ctx)))) <|
  transCmp_unless ctx _ <| transCmp_on TryCatchBlock.invisibleTypeAnnotations
    (compareOptional (compareUnordered (TypeAnnotationUse.compare ctx)))

instance (ctx : Context) : TransCmp (LocalVariable.compare ctx) :=
  transCmp_then (transCmp_on LocalVariable.name Ord.compare) <|
  transCmp_then (transCmp_on LocalVariable.descriptor Ord.compare) <|
  transCmp_then (transCmp_on LocalVariable.signature Ord.compare) <|
  transCmp_then (transCmp_on LocalVariable.start (Label.compare ctx)) <|
  transCmp_then (transCmp_on LocalVariable.stop (Label.compare ctx)) <|
  transCmp_on LocalVariable.slot Ord.compare

end ClassMatch
