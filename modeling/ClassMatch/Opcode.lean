/-!
Mnemonics of the instructions that can stand in an instruction list. Short forms and `wide` are
folded into the plain instruction, which leaves gaps in the numbering.
-/
namespace ClassMatch.Opcode

/-- Runs of consecutive opcodes: the first one of each, and the mnemonics from there on. -/
def runs : List (Nat × List String) :=
  [(0x00,
      ["NOP", "ACONST_NULL", "ICONST_M1", "ICONST_0", "ICONST_1", "ICONST_2", "ICONST_3",
        "ICONST_4", "ICONST_5", "LCONST_0", "LCONST_1", "FCONST_0", "FCONST_1", "FCONST_2",
        "DCONST_0", "DCONST_1", "BIPUSH", "SIPUSH", "LDC"]),
    (0x15,
      ["ILOAD", "LLOAD", "FLOAD", "DLOAD", "ALOAD"]),
    (0x2e,
      ["IALOAD", "LALOAD", "FALOAD", "DALOAD", "AALOAD", "BALOAD", "CALOAD", "SALOAD", "ISTORE",
        "LSTORE", "FSTORE", "DSTORE", "ASTORE"]),
    (0x4f,
      ["IASTORE", "LASTORE", "FASTORE", "DASTORE", "AASTORE", "BASTORE", "CASTORE", "SASTORE",
        "POP", "POP2", "DUP", "DUP_X1", "DUP_X2", "DUP2", "DUP2_X1", "DUP2_X2", "SWAP", "IADD",
        "LADD", "FADD", "DADD", "ISUB", "LSUB", "FSUB", "DSUB", "IMUL", "LMUL", "FMUL", "DMUL",
        "IDIV", "LDIV", "FDIV", "DDIV", "IREM", "LREM", "FREM", "DREM", "INEG", "LNEG", "FNEG",
        "DNEG", "ISHL", "LSHL", "ISHR", "LSHR", "IUSHR", "LUSHR", "IAND", "LAND", "IOR", "LOR",
        "IXOR", "LXOR", "IINC", "I2L", "I2F", "I2D", "L2I", "L2F", "L2D", "F2I", "F2L", "F2D",
        "D2I", "D2L", "D2F", "I2B", "I2C", "I2S", "LCMP", "FCMPL", "FCMPG", "DCMPL", "DCMPG",
        "IFEQ", "IFNE", "IFLT", "IFGE", "IFGT", "IFLE", "IF_ICMPEQ", "IF_ICMPNE", "IF_ICMPLT",
        "IF_ICMPGE", "IF_ICMPGT", "IF_ICMPLE", "IF_ACMPEQ", "IF_ACMPNE", "GOTO", "JSR", "RET",
        "TABLESWITCH", "LOOKUPSWITCH", "IRETURN", "LRETURN", "FRETURN", "DRETURN", "ARETURN",
        "RETURN", "GETSTATIC", "PUTSTATIC", "GETFIELD", "PUTFIELD", "INVOKEVIRTUAL",
        "INVOKESPECIAL", "INVOKESTATIC", "INVOKEINTERFACE", "INVOKEDYNAMIC", "NEW", "NEWARRAY",
        "ANEWARRAY", "ARRAYLENGTH", "ATHROW", "CHECKCAST", "INSTANCEOF", "MONITORENTER",
        "MONITOREXIT"]),
    (0xc5,
      ["MULTIANEWARRAY", "IFNULL", "IFNONNULL"])]

def mnemonic? (opcode : UInt8) : Option String :=
  runs.findSome? fun (first, names) =>
    if first ≤ opcode.toNat then names[opcode.toNat - first]? else none

/-- Two upper-case hexadecimal digits. -/
def hexByte (byte : UInt8) : String :=
  String.ofList [Nat.digitChar (byte.toNat / 16), Nat.digitChar (byte.toNat % 16)] |>.toUpper

def mnemonic (opcode : UInt8) : String := (mnemonic? opcode).getD ("UNKNOWN_" ++ hexByte opcode)

def invokedynamic : UInt8 := 0xba
def ldc : UInt8 := 0x12
def iinc : UInt8 := 0x84
def tableswitch : UInt8 := 0xaa
def lookupswitch : UInt8 := 0xab
def multianewarray : UInt8 := 0xc5
def newarray : UInt8 := 0xbc

/-- Names of the element types that the operand of `NEWARRAY` stands for, from 4 on. -/
def arrayTypes : List String :=
  ["T_BOOLEAN", "T_CHAR", "T_FLOAT", "T_DOUBLE", "T_BYTE", "T_SHORT", "T_INT", "T_LONG"]

/-- An operand that stands for no element type is written as a number. -/
def arrayTypeName (operand : Int32) : String :=
  let named := if 4 ≤ operand.toInt then arrayTypes[operand.toInt.toNat - 4]? else none
  named.getD (toString operand.toInt)

end ClassMatch.Opcode
