import ClassMatch.Order.Annotations

/-!
Orders of instructions and of what belongs to them. Instructions are ordered by shape, then by
opcode, then by their operands.
-/
namespace ClassMatch

def Handle.compare (a b : Handle) : Ordering :=
  (Ord.compare a.tag b.tag).then <|
  (Ord.compare a.owner b.owner).then <|
  (Ord.compare a.name b.name).then <|
  (Ord.compare a.descriptor b.descriptor).then <|
  Ord.compare a.isInterface b.isInterface

/-- Position among the kinds of constants. -/
def Constant.rank : Constant → Nat
  | int _ => 0
  | float _ => 1
  | long _ => 2
  | double _ => 3
  | string _ => 4
  | type _ => 5
  | handle _ => 6

/-- Constants of different kinds are ordered by kind. -/
def Constant.compare : Constant → Constant → Ordering
  | int a, int b => Ord.compare a b
  | float a, float b => a.totalOrder b
  | long a, long b => Ord.compare a b
  | double a, double b => a.totalOrder b
  | string a, string b => Ord.compare a b
  | type a, type b => Ord.compare a b
  | handle a, handle b => a.compare b
  | a, b => Ord.compare a.rank b.rank

/-- Position among the kinds of frames. -/
def FrameKind.rank : FrameKind → Nat
  | new => 0
  | full => 1
  | append => 2
  | chop => 3
  | same => 4
  | same1 => 5

/-- Position among the kinds of frame values. -/
def FrameValue.rank : FrameValue → Nat
  | top => 0
  | integer => 1
  | float => 2
  | double => 3
  | long => 4
  | null => 5
  | uninitializedThis => 6
  | object _ => 7
  | uninitialized _ => 8

def FrameValue.compare (ctx : Context) : FrameValue → FrameValue → Ordering
  | object a, object b => Ord.compare a b
  | uninitialized a, uninitialized b => a.compare ctx b
  | a, b => Ord.compare a.rank b.rank

/-- Order of the operands of two instructions of the same shape. -/
def Instruction.compareOperands (ctx : Context) : Instruction → Instruction → Ordering
  | int _ a, int _ b => Ord.compare a b
  | var _ a, var _ b => Ord.compare a b
  | type _ a, type _ b => Ord.compare a b
  | field _ owner name descriptor, field _ owner' name' descriptor' =>
    (Ord.compare owner owner').then <|
    (Ord.compare name name').then <|
    Ord.compare descriptor descriptor'
  | method _ owner name descriptor isInterface, method _ owner' name' descriptor' isInterface' =>
    (Ord.compare owner owner').then <|
    (Ord.compare name name').then <|
    (Ord.compare descriptor descriptor').then <|
    Ord.compare isInterface isInterface'
  | invokeDynamic name descriptor bootstrap arguments,
      invokeDynamic name' descriptor' bootstrap' arguments' =>
    (Ord.compare name name').then <|
    (Ord.compare descriptor descriptor').then <|
    (bootstrap.compare bootstrap').then <|
    compareLists Constant.compare arguments arguments'
  | jump _ a, jump _ b => a.compare ctx b
  | label a, label b => a.compare ctx b
  | ldc a, ldc b => a.compare b
  | iinc slot increment, iinc slot' increment' =>
    (Ord.compare slot slot').then (Ord.compare increment increment')
  | tableSwitch min max default targets, tableSwitch min' max' default' targets' =>
    (Ord.compare min min').then <|
    (Ord.compare max max').then <|
    (default.compare ctx default').then <|
    compareLists (Label.compare ctx) targets targets'
  | lookupSwitch default keys targets, lookupSwitch default' keys' targets' =>
    (default.compare ctx default').then <|
    (Ord.compare keys keys').then <|
    compareLists (Label.compare ctx) targets targets'
  | multiNewArray descriptor dimensions, multiNewArray descriptor' dimensions' =>
    (Ord.compare descriptor descriptor').then (Ord.compare dimensions dimensions')
  | frame kind locals stack, frame kind' locals' stack' =>
    (Ord.compare kind.rank kind'.rank).then <|
    (compareLists (FrameValue.compare ctx) locals locals').then <|
    compareLists (FrameValue.compare ctx) stack stack'
  | lineNumber line start, lineNumber line' start' =>
    (Ord.compare line line').then (start.compare ctx start')
  | _, _ => .eq

def Instruction.compare (ctx : Context) (a b : Instruction) : Ordering :=
  (Ord.compare a.rank b.rank).then <|
  (Ord.compare a.opcode? b.opcode?).then <|
  a.compareOperands ctx b

def TryCatchBlock.compare (ctx : Context) (a b : TryCatchBlock) : Ordering :=
  let uses := compareOptional (compareUnordered (TypeAnnotationUse.compare ctx))
  (a.start.compare ctx b.start).then <|
  (a.stop.compare ctx b.stop).then <|
  (a.handler.compare ctx b.handler).then <|
  (Ord.compare a.catchType b.catchType).then <|
  (ctx.unless .ignoreVisibleTypeAnnotations
    (uses a.visibleTypeAnnotations b.visibleTypeAnnotations)).then <|
  ctx.unless .ignoreInvisibleTypeAnnotations
    (uses a.invisibleTypeAnnotations b.invisibleTypeAnnotations)

def LocalVariable.compare (ctx : Context) (a b : LocalVariable) : Ordering :=
  (Ord.compare a.name b.name).then <|
  (Ord.compare a.descriptor b.descriptor).then <|
  (Ord.compare a.signature b.signature).then <|
  (a.start.compare ctx b.start).then <|
  (a.stop.compare ctx b.stop).then <|
  Ord.compare a.slot b.slot

end ClassMatch
