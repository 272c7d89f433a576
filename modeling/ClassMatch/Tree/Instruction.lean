import ClassMatch.Number.Binary
import ClassMatch.Opcode
import ClassMatch.Tree.Annotations
import ClassMatch.Tree.Label

/-!
The code of a method: instructions, exception ranges and local variables. Labels, frames and line
numbers stand in the instruction list but are no machine instructions.
-/
namespace ClassMatch

open Number

structure Handle where
  tag : UInt8
  owner : String
  name : String
  descriptor : String
  isInterface : Bool
  deriving DecidableEq, BEq

inductive Constant
  | int (value : Int32)
  | float (value : Binary32)
  | long (value : Int64)
  | double (value : Binary64)
  | string (value : String)
  | type (descriptor : String)
  | handle (value : Handle)
  deriving BEq

inductive FrameKind
  | new | full | append | chop | same | same1
  deriving DecidableEq, BEq

def FrameKind.name : FrameKind → String
  | new => "NEW"
  | full => "FULL"
  | append => "APPEND"
  | chop => "CHOP"
  | same => "SAME"
  | same1 => "SAME1"

/-- The type of a slot in a frame; an object that is not initialised yet is known by the label of
the instruction that creates it. -/
inductive FrameValue
  | top | integer | float | double | long | null | uninitializedThis
  | object (className : String)
  | uninitialized (label : Label)
  deriving DecidableEq, BEq

inductive Instruction
  | plain (opcode : UInt8)
  | int (opcode : UInt8) (operand : Int32)
  | var (opcode : UInt8) (slot : UInt16)
  | type (opcode : UInt8) (className : String)
  | field (opcode : UInt8) (owner name descriptor : String)
  | method (opcode : UInt8) (owner name descriptor : String) (isInterface : Bool)
  | invokeDynamic (name descriptor : String) (bootstrap : Handle) (arguments : List Constant)
  | jump (opcode : UInt8) (target : Label)
  | label (label : Label)
  | ldc (constant : Constant)
  | iinc (slot : UInt16) (increment : Int16)
  | tableSwitch (min max : Int32) (default : Label) (targets : List Label)
  | lookupSwitch (default : Label) (keys : List Int32) (targets : List Label)
  | multiNewArray (descriptor : String) (dimensions : UInt8)
  | frame (kind : FrameKind) (locals stack : List FrameValue)
  | lineNumber (line : UInt32) (start : Label)
  deriving BEq

/-- A range of instructions and the handler of the exceptions thrown there. -/
structure TryCatchBlock where
  start : Label
  stop : Label
  handler : Label
  catchType : Option String
  visibleTypeAnnotations : Option (List TypeAnnotationUse)
  invisibleTypeAnnotations : Option (List TypeAnnotationUse)
  deriving BEq

structure LocalVariable where
  name : String
  descriptor : String
  signature : Option String
  start : Label
  stop : Label
  slot : UInt16
  deriving DecidableEq, BEq

/-- The label that tells where an object in the slot was created. -/
def FrameValue.label? : FrameValue → Option Label
  | uninitialized label => some label
  | _ => none

namespace Instruction

/-- The opcode of a machine instruction. -/
def opcode? : Instruction → Option UInt8
  | plain op | int op _ | var op _ | type op _ | field op _ _ _ | method op _ _ _ _ | jump op _ =>
    some op
  | invokeDynamic .. => some Opcode.invokedynamic
  | ldc _ => some Opcode.ldc
  | iinc .. => some Opcode.iinc
  | tableSwitch .. => some Opcode.tableswitch
  | lookupSwitch .. => some Opcode.lookupswitch
  | multiNewArray .. => some Opcode.multianewarray
  | label _ | frame .. | lineNumber .. => none

/-- Position among the shapes of instructions. -/
def rank : Instruction → Nat
  | plain _ => 0
  | int .. => 1
  | var .. => 2
  | type .. => 3
  | field .. => 4
  | method .. => 5
  | invokeDynamic .. => 6
  | jump .. => 7
  | label _ => 8
  | ldc _ => 9
  | iinc .. => 10
  | tableSwitch .. => 11
  | lookupSwitch .. => 12
  | multiNewArray .. => 13
  | frame .. => 14
  | lineNumber .. => 15

/-- All labels in the instruction; the default of a switch comes first. -/
def labels : Instruction → List Label
  | jump _ target => [target]
  | label placed => [placed]
  | lineNumber _ start => [start]
  | tableSwitch _ _ default targets => default :: targets
  | lookupSwitch default _ targets => default :: targets
  | frame _ locals stack => (locals ++ stack).filterMap FrameValue.label?
  | _ => []

/-- The label that the instruction puts in its place. -/
def placed? : Instruction → Option Label
  | label placed => some placed
  | _ => none

/-- The instruction is part of what line numbers add to a list. -/
def isLineNumber : Instruction → Bool
  | lineNumber .. => true
  | _ => false

end Instruction

/-- The labels in the order of the instructions that place them, one that is placed again again. -/
def placedLabels (instructions : List Instruction) : List Label :=
  instructions.filterMap Instruction.placed?

end ClassMatch
