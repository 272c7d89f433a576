import ClassMatch.Text.Quoted
import ClassMatch.Tree.Instruction

/-!
Texts of instructions and of what they carry, with labels shown by name.
-/
namespace ClassMatch

open Text

def Handle.text (h : Handle) : String :=
  let interface := if h.isInterface then " itf" else ""
  s!"{h.owner}.{h.name}{h.descriptor} ({h.tag}{interface})"

def Constant.text : Constant → String
  | int value => toString value.toInt
  | float value => value.text ++ "F"
  | long value => toString value.toInt ++ "L"
  | double value => value.text ++ "D"
  | string value => quote value
  | type descriptor => descriptor ++ ".class"
  | handle value => value.text

def FrameValue.text (names : LabelNames) : FrameValue → String
  | top => "T"
  | integer => "I"
  | float => "F"
  | double => "D"
  | long => "J"
  | null => "N"
  | uninitializedThis => "U"
  | object className => className
  | uninitialized label => names.nameOf label

/-- A frame shows only what its kind changes. -/
def frameText (names : LabelNames) (kind : FrameKind) (locals stack : List FrameValue) : String :=
  let values (slots : List FrameValue) := " ".intercalate (slots.map (FrameValue.text names))
  match kind with
  | .new | .full => s!"FRAME {kind.name} [{values locals}] [{values stack}]"
  | .append => s!"FRAME APPEND [{values locals}]"
  | .chop => s!"FRAME CHOP {locals.length}"
  | .same => "FRAME SAME"
  | .same1 => s!"FRAME SAME1 {values stack}"

/-- The cases of a switch, the default last. -/
def switchText (names : LabelNames) (cases : List (Int × Label)) (default : Label) : String :=
  ", ".intercalate (cases.map (fun (key, target) => s!"{key}: {names.nameOf target}") ++
    [s!"default: {names.nameOf default}"])

/-- What follows the mnemonic of an instruction, and all of what has none. -/
def Instruction.operandText (names : LabelNames) : Instruction → String
  | plain _ => ""
  | int opcode operand =>
    if opcode = Opcode.newarray then Opcode.arrayTypeName operand else toString operand.toInt
  | var _ slot => toString slot
  | type _ className => className
  | field _ owner name descriptor => s!"{owner}.{name} : {descriptor}"
  | method _ owner name descriptor isInterface =>
    s!"{owner}.{name}{descriptor}" ++ if isInterface then " (itf)" else ""
  | invokeDynamic name descriptor bootstrap arguments =>
    let arguments := String.join (arguments.map fun argument => ", " ++ argument.text)
    s!"{name}{descriptor} [{bootstrap.text}{arguments}]"
  | jump _ target => names.nameOf target
  | label placed => names.nameOf placed
  | ldc constant => constant.text
  | iinc slot increment => s!"{slot} {increment.toInt}"
  | tableSwitch min _ default targets =>
    switchText names (targets.zipIdx.map fun (target, i) => (min.toInt + i, target)) default
  | lookupSwitch default keys targets =>
    switchText names ((keys.zip targets).map fun (key, target) => (key.toInt, target)) default
  | multiNewArray descriptor dimensions => s!"{descriptor} {dimensions}"
  | frame kind locals stack => frameText names kind locals stack
  | lineNumber line start => s!"LINENUMBER {line} {names.nameOf start}"

def Instruction.text (names : LabelNames) (i : Instruction) : String :=
  match i, i.opcode? with
  | plain _, some opcode => Opcode.mnemonic opcode
  | _, some opcode => Opcode.mnemonic opcode ++ " " ++ i.operandText names
  | _, none => i.operandText names

/-- One line for each instruction; all but the labels are indented. -/
def instructionsText (names : LabelNames) (instructions : List Instruction) : String :=
  "\n".intercalate (instructions.map fun i =>
    if i.placed?.isSome then i.text names else "  " ++ i.text names)

end ClassMatch
