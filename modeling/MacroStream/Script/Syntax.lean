/-!
# Syntax of the script language

The tree that a chunk is read into. Names are already resolved: a local variable is the number of
variables declared between it and its use, counted from the newest, so that the variables in scope
are a list with the newest one first; a variable of an enclosing function is an index into the
variables that a function captures; any other name is a field of the captured table `_ENV`.

Every operation that can fail carries the line that an error message names. Constants are kept as
they are written, so that a tree needs no values to exist.
-/

namespace MacroStream.Script

/-- Names are byte strings. -/
abbrev Name := ByteArray

/-- Operators between two values that are always both evaluated. -/
inductive BinaryOp where
  | add | sub | mul | div | idiv | mod | pow
  | band | bor | bxor | shl | shr
  | eq | ne | lt | le | gt | ge
  deriving DecidableEq, Repr

/-- Operators on one value. -/
inductive UnaryOp where
  | neg | not | length | bnot
  deriving DecidableEq, Repr

/-- Where a captured variable is found when a function is made. -/
inductive Capture where
  /-- A variable in scope, counted from the newest. -/
  | scope (index : Nat)
  /-- A variable that the enclosing function captured itself. -/
  | captured (index : Nat)
  deriving DecidableEq, Repr

/-- What is known of a function besides its body. -/
structure FunctionInfo where
  /-- The parameters, in order. -/
  params : List Name
  isVararg : Bool
  /-- The captured variables, with their names. -/
  captures : List (Name × Capture)
  /-- The name of the chunk, as it was given. -/
  source : ByteArray
  /-- The lines of the first and the last token; both 0 for a whole chunk. -/
  lineDefined : Nat
  lastLine : Nat
  /-- An estimate of how many values a call keeps at once. -/
  frameSize : Nat

/-- What a declaration of a local variable says about it. -/
inductive Attribute where
  | regular
  | constant
  | close
  deriving DecidableEq, Repr

mutual

/-- Expressions. -/
inductive Expr where
  | nil
  | true
  | false
  | int (n : Int64)
  | float (x : Float)
  | str (s : ByteArray)
  | vararg
  /-- A local variable, counted from the newest. -/
  | scope (name : Name) (index : Nat)
  /-- A captured variable. -/
  | captured (name : Name) (index : Nat)
  | index (object key : Expr) (line : Nat)
  | call (function : Expr) (args : List Expr) (line : Nat)
  /-- A call of a method; `nameLine` is where its name stands. -/
  | method (object : Expr) (name : Name) (args : List Expr) (nameLine line : Nat)
  | function (body : FunctionBody)
  | binary (op : BinaryOp) (left right : Expr) (line : Nat)
  /-- A chain of concatenations, joined from the right. -/
  | concat (operands : List Expr) (line : Nat)
  | unary (op : UnaryOp) (operand : Expr) (line : Nat)
  | and (left right : Expr)
  | or (left right : Expr)
  /-- Parentheses, which keep only the first value. -/
  | paren (inner : Expr)
  | table (items : List TableItem) (line : Nat)

/-- Parts of a table constructor. -/
inductive TableItem where
  | item (value : Expr)
  | field (key value : Expr) (line : Nat)

/-- A function with its body. -/
inductive FunctionBody where
  | mk (info : FunctionInfo) (block : Block)

/-- What an assignment assigns to. -/
inductive Target where
  | scope (index : Nat)
  | captured (index : Nat)
  | index (object key : Expr) (line : Nat)

/-- Statements. -/
inductive Statement where
  /-- New local variables; `names` with their attributes. -/
  | declare (names : List (Name × Attribute)) (values : List Expr) (line : Nat)
  | assign (targets : List Target) (values : List Expr) (line : Nat)
  /-- An expression evaluated for its effect. -/
  | run (call : Expr)
  | scopeBlock (body : Block)
  | while (condition : Expr) (body : Block)
  /-- A loop whose body ends with `until`. -/
  | repeat (body : Block)
  /-- Leaves the loop around it when the condition holds, and starts it again otherwise. -/
  | until (condition : Expr)
  | if (condition : Expr) (yes no : Block)
  | forRange (name : Name) (start limit : Expr) (step : Option Expr) (body : Block) (line : Nat)
  | forEach (names : List Name) (values : List Expr) (body : Block) (line : Nat)
  /-- A local variable that holds a function which may refer to it. -/
  | declareFunction (name : Name) (body : FunctionBody)
  | return (values : List Expr)
  /-- Returns what a call answers, in place of the function that returns. -/
  | tailCall (call : Expr)
  | break
  | goto (label : Name)
  | label (name : Name)

/-- Statements in order; `labels` says how many variables of the block are in scope at each label,
and how many statements stand before it. -/
inductive Block where
  | mk (statements : List Statement) (labels : List (Name × Nat × Nat))

end

instance : Inhabited Expr := ⟨.nil⟩
instance : Inhabited Block := ⟨.mk [] []⟩

namespace Block

/-- The statements of a block. -/
def statements : Block → List Statement
  | mk ss _ => ss

/-- The labels of a block. -/
def labels : Block → List (Name × Nat × Nat)
  | mk _ ls => ls

end Block

namespace FunctionBody

/-- What is known of the function. -/
def info : FunctionBody → FunctionInfo
  | mk i _ => i

/-- The statements of the function. -/
def block : FunctionBody → Block
  | mk _ b => b

end FunctionBody

namespace Expr

/-- Whether the expression may have any number of values. -/
def isMulti : Expr → Bool
  | .call .. | .method .. | .vararg => Bool.true
  | _ => Bool.false

end Expr

end MacroStream.Script
