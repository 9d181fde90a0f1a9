/-
Reading a script from its lexemes.

The reader never goes back: the next lexeme says what comes.  It gives up at the first lexeme
that fits nothing.  A text that fits the grammar may still hold forms that are not allowed;
those are gathered as they are read, inner ones first.

The fuel bounds how deep the reader calls itself.  It is a multiple of the number of lexemes
and is never used up.
-/
import Lookout.Script.Lexeme
import Lookout.Script.Syntax
import Lookout.Script.SyntaxFault

namespace Lookout.Script

/-- What the reader has before it, and the faults found so far, the last one first. -/
structure Cursor where
  ahead : List Lexeme
  faults : List SyntaxFault

/-- A reader of some part of the grammar; nothing where the text does not fit it. -/
abbrev Reader (α : Type) : Type :=
  StateT Cursor Option α

namespace Reader

/-! ### Single lexemes -/

/-- Gives up. -/
def giveUp {α : Type} : Reader α :=
  fun _ => none

/-- The next lexeme, left where it is. -/
def peek : Reader (Option Lexeme) :=
  fun c => some (c.ahead.head?, c)

/-- Goes on to the lexeme behind the next one. -/
def skip : Reader Unit :=
  fun c => some ((), { c with ahead := c.ahead.tail })

/-- Notes a fault. -/
def note (fault : SyntaxFault) : Reader Unit :=
  fun c => some ((), { c with faults := fault :: c.faults })

/-- Whether a lexeme is the given symbol. -/
def isSymbol (text : String) : Option Lexeme → Bool
  | some (.symbol s) => s = text
  | _ => false

/-- Whether a lexeme is the given word of the grammar. -/
def isKeyword (word : String) : Option Lexeme → Bool
  | some (.keyword w) => w = word
  | _ => false

/-- Whether a lexeme is a line break. -/
def isNewline : Option Lexeme → Bool
  | some .newline => true
  | _ => false

/-- Takes a symbol if it comes next, and says whether it did. -/
def accept (text : String) : Reader Bool := do
  let next ← peek
  if isSymbol text next then
    skip
    pure true
  else pure false

/-- Takes a word of the grammar if it comes next, and says whether it did. -/
def acceptWord (word : String) : Reader Bool := do
  let next ← peek
  if isKeyword word next then
    skip
    pure true
  else pure false

/-- Takes a symbol that has to come next. -/
def expect (text : String) : Reader Unit := do
  let found ← accept text
  if found then pure () else giveUp

/-- Takes a word that has to come next. -/
def expectWord (word : String) : Reader Unit := do
  let found ← acceptWord word
  if found then pure () else giveUp

/-- Takes a name that has to come next. -/
def identifier : Reader String := do
  match ← peek with
  | some (.identifier name) =>
    skip
    pure name
  | _ => giveUp

/-- Takes a string that has to come next. -/
def stringLiteral : Reader String := do
  match ← peek with
  | some (.string s) =>
    skip
    pure s
  | _ => giveUp

/-- Takes a name and the equals sign behind it, if these come next. -/
def acceptLabel : Reader (Option String) :=
  fun c =>
    match c.ahead with
    | .identifier name :: .symbol "=" :: rest => some (some name, { c with ahead := rest })
    | _ => some (none, c)

/-- Whether an expression can begin with a lexeme. -/
def startsExpr : Option Lexeme → Bool
  | some (.identifier _) => true
  | some (.int _) => true
  | some (.float _) => true
  | some (.string _) => true
  | some .formatted => true
  | some (.keyword w) => w = "not" || w = "lambda"
  | some (.symbol s) => ["(", "[", "\x7b", "-", "+", "~", "..."].contains s
  | _ => false

/-! ### Operators -/

/-- The operators of arithmetic, weakest first. -/
def arithmeticLevels : List (List (String × BinaryOp)) :=
  [[("|", .bitOr)], [("^", .bitXor)], [("&", .bitAnd)],
    [("<<", .shiftLeft), (">>", .shiftRight)],
    [("+", .add), ("-", .sub)],
    [("*", .mul), ("/", .div), ("//", .floorDiv), ("%", .percent)]]

/-- The comparisons written with a symbol. -/
def comparisons : List (String × BinaryOp) :=
  [("==", .equal), ("!=", .notEqual), ("<", .less), (">", .greater), ("<=", .atMost),
    (">=", .atLeast)]

/-- The assignments that combine with the old value. -/
def augmentations : List (String × BinaryOp) :=
  [("+=", .add), ("-=", .sub), ("*=", .mul), ("/=", .div), ("//=", .floorDiv), ("%=", .percent),
    ("&=", .bitAnd), ("|=", .bitOr), ("^=", .bitXor), ("<<=", .shiftLeft), (">>=", .shiftRight)]

/-- The operator of a table that comes next. -/
def operatorOf (table : List (String × BinaryOp)) : Option Lexeme → Option BinaryOp
  | some (.symbol s) => table.lookup s
  | _ => none

/-- Takes an operator of a table if one comes next. -/
def acceptOperator (table : List (String × BinaryOp)) : Reader (Option BinaryOp) := do
  match operatorOf table (← peek) with
  | some op =>
    skip
    pure (some op)
  | none => pure none

/-- Takes a comparison if one comes next. -/
def acceptComparison : Reader (Option BinaryOp) := do
  if ← acceptWord "in" then pure (some .isIn)
  else if ← acceptWord "not" then
    expectWord "in"
    pure (some .notIn)
  else acceptOperator comparisons

/-- The sign of a unary operator that comes next. -/
def acceptSign : Reader (Option UnaryOp) := do
  if ← accept "-" then pure (some .minus)
  else if ← accept "+" then pure (some .plus)
  else if ← accept "~" then pure (some .invert)
  else pure none

/-! ### Forms that are not allowed everywhere -/

mutual

/-- The target that an expression makes, if it makes one. -/
def target? : Expr → Option Target
  | .name n => some (.name n)
  | .attribute owner n => some (.attribute owner n)
  | .item owner index => some (.item owner index)
  | .tuple items => (targets? items).map .unpack
  | .list items => (targets? items).map .unpack
  | _ => none

/-- The targets that expressions make. -/
def targets? : List Expr → Option (List Target)
  | [] => some []
  | e :: es => do
    let target ← target? e
    let more ← targets? es
    some (target :: more)

end

/-- The target of an assignment; a fault is noted if the expression makes none. -/
def asTarget (e : Expr) : Reader Target :=
  match target? e with
  | some target => pure target
  | none => do
    note .invalidTarget
    pure (.unpack [])

/-- Whether an expression is a list or tuple. -/
def isMany : Expr → Bool
  | .tuple _ => true
  | .list _ => true
  | _ => false

/-- How far the arguments of a call have come: positional, named, spread, spread by name. -/
def argumentFault (stage : Nat) (names : List String) : List Argument → Option SyntaxFault
  | [] => none
  | .positional _ :: rest =>
    if stage = 0 then argumentFault stage names rest else some .positionalAfterNamed
  | .named name _ :: rest =>
    if 1 < stage then some .namedAfterSpread
    else if names.contains name then some .repeatedArgument
    else argumentFault 1 (name :: names) rest
  | .spread _ :: rest =>
    if 1 < stage then some .spreadAfterSpread else argumentFault 2 names rest
  | .spreadNamed _ :: rest =>
    if stage = 3 then some .spreadNamedTwice else argumentFault 3 names rest

/-- Notes a fault if there is one. -/
def noteAny : Option SyntaxFault → Reader Unit
  | none => pure ()
  | some fault => note fault

/-! ### Expressions -/

mutual

/-- An expression, a conditional one or a function included. -/
def test : Nat → Reader Expr
  | 0 => giveUp
  | fuel + 1 => do
    if ← acceptWord "lambda" then
      let params ← paramList fuel false ":"
      let body ← test fuel
      pure (.lambda params body)
    else
      let value ← disjunction fuel
      if ← acceptWord "if" then
        let condition ← disjunction fuel
        expectWord "else"
        let other ← test fuel
        pure (.choice condition value other)
      else pure value

/-- Conjunctions joined by `or`. -/
def disjunction : Nat → Reader Expr
  | 0 => giveUp
  | fuel + 1 => do
    let first ← conjunction fuel
    disjunctionFrom fuel first

/-- The rest of a disjunction. -/
def disjunctionFrom : Nat → Expr → Reader Expr
  | 0, _ => giveUp
  | fuel + 1, left => do
    if ← acceptWord "or" then
      let right ← conjunction fuel
      disjunctionFrom fuel (.either left right)
    else pure left

/-- Negations joined by `and`. -/
def conjunction : Nat → Reader Expr
  | 0 => giveUp
  | fuel + 1 => do
    let first ← negation fuel
    conjunctionFrom fuel first

/-- The rest of a conjunction. -/
def conjunctionFrom : Nat → Expr → Reader Expr
  | 0, _ => giveUp
  | fuel + 1, left => do
    if ← acceptWord "and" then
      let right ← negation fuel
      conjunctionFrom fuel (.both left right)
    else pure left

/-- A comparison, negated any number of times. -/
def negation : Nat → Reader Expr
  | 0 => giveUp
  | fuel + 1 => do
    if ← acceptWord "not" then
      let operand ← negation fuel
      pure (.negation operand)
    else
      let left ← arithmetic fuel arithmeticLevels
      match ← acceptComparison with
      | some op =>
        let right ← arithmetic fuel arithmeticLevels
        pure (.binary op left right)
      | none => pure left

/-- Operands joined by the operators of the given levels. -/
def arithmetic : Nat → List (List (String × BinaryOp)) → Reader Expr
  | 0, _ => giveUp
  | fuel + 1, [] => factor fuel
  | fuel + 1, table :: stronger => do
    let first ← arithmetic fuel stronger
    arithmeticFrom fuel table stronger first

/-- The rest of a run of operands. -/
def arithmeticFrom : Nat → List (String × BinaryOp) → List (List (String × BinaryOp)) → Expr →
    Reader Expr
  | 0, _, _, _ => giveUp
  | fuel + 1, table, stronger, left => do
    match ← acceptOperator table with
    | some op =>
      let right ← arithmetic fuel stronger
      arithmeticFrom fuel table stronger (.binary op left right)
    | none => pure left

/-- An operand with the signs in front of it. -/
def factor : Nat → Reader Expr
  | 0 => giveUp
  | fuel + 1 => do
    match ← acceptSign with
    | some op =>
      let operand ← factor fuel
      pure (.unary op operand)
    | none =>
      let operand ← atom fuel
      trailers fuel operand

/-- What may follow an operand: attributes, calls, items and slices. -/
def trailers : Nat → Expr → Reader Expr
  | 0, _ => giveUp
  | fuel + 1, e => do
    if ← accept "." then
      let name ← identifier
      trailers fuel (.attribute e name)
    else if ← accept "(" then
      let arguments ← argumentList fuel
      noteAny (argumentFault 0 [] arguments)
      trailers fuel (.call e arguments)
    else if ← accept "[" then
      let subscripted ← subscript fuel e
      trailers fuel subscripted
    else pure e

/-- The arguments of a call, up to the closing bracket. -/
def argumentList : Nat → Reader (List Argument)
  | 0 => giveUp
  | fuel + 1 => do
    if ← accept ")" then pure []
    else
      let first ← argument fuel
      if ← accept "," then
        let more ← argumentList fuel
        pure (first :: more)
      else
        expect ")"
        pure [first]

/-- One argument of a call. -/
def argument : Nat → Reader Argument
  | 0 => giveUp
  | fuel + 1 => do
    if ← accept "*" then
      let e ← test fuel
      pure (.spread e)
    else if ← accept "**" then
      let e ← test fuel
      pure (.spreadNamed e)
    else
      match ← acceptLabel with
      | some name =>
        let e ← test fuel
        pure (.named name e)
      | none =>
        let e ← test fuel
        pure (.positional e)

/-- What stands in the square brackets behind an operand. -/
def subscript : Nat → Expr → Reader Expr
  | 0, _ => giveUp
  | fuel + 1, owner => do
    if ← accept ":" then sliceFrom fuel owner none
    else
      let first ← test fuel
      if ← accept ":" then sliceFrom fuel owner (some first)
      else if ← accept "," then
        let second ← test fuel
        expect "]"
        pure (.itemPair owner first second)
      else
        expect "]"
        pure (.item owner first)

/-- A slice behind its first colon. -/
def sliceFrom : Nat → Expr → Option Expr → Reader Expr
  | 0, _, _ => giveUp
  | fuel + 1, owner, start => do
    let stop ← optionalTest fuel
    if ← accept ":" then
      let step ← optionalTest fuel
      expect "]"
      pure (.slice owner start stop step)
    else
      expect "]"
      pure (.slice owner start stop none)

/-- An expression, if one comes next. -/
def optionalTest : Nat → Reader (Option Expr)
  | 0 => giveUp
  | fuel + 1 => do
    if startsExpr (← peek) then
      let e ← test fuel
      pure (some e)
    else pure none

/-- A name, a literal, or something in brackets. -/
def atom : Nat → Reader Expr
  | 0 => giveUp
  | fuel + 1 => do
    let next ← peek
    skip
    match next with
    | some (.identifier name) => pure (.name name)
    | some (.int n) => pure (.int n)
    | some (.float x) => pure (.float x)
    | some (.string s) => pure (.string s)
    | some .formatted =>
      note .formattedString
      pure (.string "")
    | some (.symbol s) =>
      if s = "..." then pure .ellipsis
      else if s = "(" then grouped fuel
      else if s = "[" then listDisplay fuel
      else if s = "\x7b" then dictDisplay fuel
      else giveUp
    | _ => giveUp

/-- What stands in round brackets: nothing, an expression, or a tuple. -/
def grouped : Nat → Reader Expr
  | 0 => giveUp
  | fuel + 1 => do
    if ← accept ")" then pure (.tuple [])
    else
      let e ← testList fuel
      expect ")"
      pure e

/-- A list, by its items or by a comprehension. -/
def listDisplay : Nat → Reader Expr
  | 0 => giveUp
  | fuel + 1 => do
    if ← accept "]" then pure (.list [])
    else
      let first ← test fuel
      if isKeyword "for" (← peek) then
        let clauses ← clauseList fuel
        expect "]"
        pure (.listOf first clauses)
      else if ← accept "," then
        let more ← testsUpTo fuel "]"
        pure (.list (first :: more))
      else
        expect "]"
        pure (.list [first])

/-- Expressions with commas between them, up to a closing bracket. -/
def testsUpTo : Nat → String → Reader (List Expr)
  | 0, _ => giveUp
  | fuel + 1, closing => do
    if ← accept closing then pure []
    else
      let first ← test fuel
      if ← accept "," then
        let more ← testsUpTo fuel closing
        pure (first :: more)
      else
        expect closing
        pure [first]

/-- A dictionary, by its entries or by a comprehension. -/
def dictDisplay : Nat → Reader Expr
  | 0 => giveUp
  | fuel + 1 => do
    if ← accept "\x7d" then pure (.dict [])
    else
      let key ← test fuel
      expect ":"
      let value ← test fuel
      if isKeyword "for" (← peek) then
        let clauses ← clauseList fuel
        expect "\x7d"
        pure (.dictOf key value clauses)
      else if ← accept "," then
        let more ← entriesUpTo fuel
        pure (.dict ((key, value) :: more))
      else
        expect "\x7d"
        pure (.dict [(key, value)])

/-- The entries of a dictionary with commas between them, up to its closing brace. -/
def entriesUpTo : Nat → Reader (List (Expr × Expr))
  | 0 => giveUp
  | fuel + 1 => do
    if ← accept "\x7d" then pure []
    else
      let key ← test fuel
      expect ":"
      let value ← test fuel
      if ← accept "," then
        let more ← entriesUpTo fuel
        pure ((key, value) :: more)
      else
        expect "\x7d"
        pure [(key, value)]

/-- The clauses of a comprehension, as many as come. -/
def clauseList : Nat → Reader (List Clause)
  | 0 => giveUp
  | fuel + 1 => do
    if ← acceptWord "for" then
      let targets ← loopVariables fuel
      expectWord "in"
      let source ← disjunction fuel
      let target ← asTarget targets
      let more ← clauseList fuel
      pure (.forIn target source :: more)
    else if ← acceptWord "if" then
      let condition ← disjunction fuel
      let more ← clauseList fuel
      pure (.keepIf condition :: more)
    else pure []

/-- The variables of a loop. -/
def loopVariables : Nat → Reader Expr
  | 0 => giveUp
  | fuel + 1 => do
    let first ← arithmetic fuel arithmeticLevels
    if ← accept "," then
      let more ← operands fuel
      pure (.tuple (first :: more))
    else pure first

/-- Operands with commas between them, as many as come. -/
def operands : Nat → Reader (List Expr)
  | 0 => giveUp
  | fuel + 1 => do
    if startsExpr (← peek) then
      let first ← arithmetic fuel arithmeticLevels
      if ← accept "," then
        let more ← operands fuel
        pure (first :: more)
      else pure [first]
    else pure []

/-- An expression, or a tuple without brackets. -/
def testList : Nat → Reader Expr
  | 0 => giveUp
  | fuel + 1 => do
    let first ← test fuel
    if ← accept "," then
      let more ← tests fuel
      pure (.tuple (first :: more))
    else pure first

/-- Expressions with commas between them, as many as come. -/
def tests : Nat → Reader (List Expr)
  | 0 => giveUp
  | fuel + 1 => do
    if startsExpr (← peek) then
      let first ← test fuel
      if ← accept "," then
        let more ← tests fuel
        pure (first :: more)
      else pure [first]
    else pure []

/-- The parameters of a function up to a closing symbol. -/
def paramList : Nat → Bool → String → Reader (List Param)
  | 0, _, _ => giveUp
  | fuel + 1, annotated, closing => do
    if ← accept closing then pure []
    else
      let first ← param fuel annotated
      if ← accept "," then
        let more ← paramList fuel annotated closing
        pure (first :: more)
      else
        expect closing
        pure [first]

/-- One parameter; annotations stand only where they are allowed. -/
def param : Nat → Bool → Reader Param
  | 0, _ => giveUp
  | fuel + 1, annotated => do
    if ← accept "/" then pure (.mk .slash "" none none)
    else if ← accept "**" then
      let name ← identifier
      let typeExpr ← annotationOf fuel annotated
      pure (.mk .restNamed name typeExpr none)
    else if ← accept "*" then
      match ← peek with
      | some (.identifier name) =>
        skip
        let typeExpr ← annotationOf fuel annotated
        pure (.mk .rest name typeExpr none)
      | _ => pure (.mk .star "" none none)
    else
      let name ← identifier
      let typeExpr ← annotationOf fuel annotated
      if ← accept "=" then
        let fallback ← test fuel
        pure (.mk .plain name typeExpr (some fallback))
      else pure (.mk .plain name typeExpr none)

/-- The annotation of a parameter, where one is allowed and comes. -/
def annotationOf : Nat → Bool → Reader (Option Expr)
  | 0, _ => giveUp
  | fuel + 1, annotated => do
    if annotated then
      if ← accept ":" then
        let e ← test fuel
        pure (some e)
      else pure none
    else pure none

end

/-! ### Statements -/

/-- An assignment whose left side has been read. -/
def assignment (fuel : Nat) (left : Expr) (typeExpr : Option Expr) : Reader Stmt := do
  if ← accept "=" then
    let value ← testList fuel
    let target ← asTarget left
    if typeExpr.isSome && isMany left then note .annotatedMany
    pure (.assign target typeExpr value)
  else
    match ← acceptOperator augmentations with
    | none => giveUp
    | some op =>
      let value ← testList fuel
      if isMany left then
        note .augmentedMany
        pure .pass
      else
        let target ← asTarget left
        if typeExpr.isSome then note .annotatedAugmented
        pure (.augment target op value)

/-- An expression or an assignment. -/
def exprOrAssignment (fuel : Nat) : Reader Stmt := do
  let left ← testList fuel
  if ← accept ":" then
    let typeExpr ← test fuel
    assignment fuel left (some typeExpr)
  else
    let next ← peek
    if isSymbol "=" next || (operatorOf augmentations next).isSome then assignment fuel left none
    else pure (.expr left)

/-- The names that a `load` binds, up to its closing bracket. -/
def loadNames : Nat → Reader (List String)
  | 0 => giveUp
  | fuel + 1 => do
    let name ← (do
      match ← peek with
      | some (.identifier name) =>
        skip
        expect "="
        let _ ← stringLiteral
        pure name
      | _ => stringLiteral)
    if ← accept "," then
      if ← accept ")" then pure [name]
      else
        let more ← loadNames fuel
        pure (name :: more)
    else
      expect ")"
      pure [name]

/-- A statement that fits on a line with others. -/
def smallStatement (fuel : Nat) : Reader Stmt := do
  if ← acceptWord "return" then
    let value ← (do
      if startsExpr (← peek) then
        let e ← testList fuel
        pure (some e)
      else pure none)
    pure (.giveBack value)
  else if ← acceptWord "break" then pure .leaveLoop
  else if ← acceptWord "continue" then pure .nextRound
  else if ← acceptWord "pass" then pure .pass
  else if ← acceptWord "load" then
    expect "("
    let file ← stringLiteral
    expect ","
    let names ← loadNames fuel
    pure (.load file names)
  else exprOrAssignment fuel

/-- Line breaks, as many as come. -/
def newlines : Nat → Reader Unit
  | 0 => pure ()
  | fuel + 1 => do
    if isNewline (← peek) then
      skip
      newlines fuel
    else pure ()

/-- At least one line break. -/
def lineEnd (fuel : Nat) : Reader Unit := do
  if isNewline (← peek) then newlines fuel else giveUp

/-- The small statements of one line, with semicolons between them. -/
def lineFrom : Nat → Reader (List Stmt)
  | 0 => giveUp
  | fuel + 1 => do
    let first ← smallStatement fuel
    if ← accept ";" then
      if isNewline (← peek) then
        lineEnd fuel
        pure [first]
      else
        let more ← lineFrom fuel
        pure (first :: more)
    else
      lineEnd fuel
      pure [first]

mutual

/-- A statement, or the statements of one line. -/
def statement : Nat → Reader (List Stmt)
  | 0 => giveUp
  | fuel + 1 => do
    if ← acceptWord "def" then
      let name ← identifier
      expect "("
      let params ← paramList fuel true ")"
      let result ← (do
        if ← accept "->" then
          let e ← test fuel
          pure (some e)
        else pure none)
      expect ":"
      let body ← suite fuel
      pure [.define name params result body]
    else if ← acceptWord "if" then
      let branch ← branchFrom fuel
      pure [branch]
    else if ← acceptWord "for" then
      let targets ← loopVariables fuel
      expectWord "in"
      let source ← testList fuel
      expect ":"
      let body ← suite fuel
      let target ← asTarget targets
      pure [.forIn target source body]
    else lineFrom fuel

/-- A branch behind its `if` or `elif`. -/
def branchFrom : Nat → Reader Stmt
  | 0 => giveUp
  | fuel + 1 => do
    let condition ← test fuel
    expect ":"
    let whenTrue ← suite fuel
    if ← acceptWord "elif" then
      let other ← branchFrom fuel
      pure (.branch condition whenTrue [other])
    else if ← acceptWord "else" then
      expect ":"
      let whenFalse ← suite fuel
      pure (.branch condition whenTrue whenFalse)
    else pure (.branch condition whenTrue [])

/-- The body of a compound statement: the rest of its line, or the deeper lines below. -/
def suite : Nat → Reader (List Stmt)
  | 0 => giveUp
  | fuel + 1 => do
    if isNewline (← peek) then
      newlines fuel
      match ← peek with
      | some .indent =>
        skip
        newlines fuel
        let first ← statement fuel
        let more ← statementsUpTo fuel
        pure (first ++ more)
      | _ => giveUp
    else lineFrom fuel

/-- The statements of a body, up to its end. -/
def statementsUpTo : Nat → Reader (List Stmt)
  | 0 => giveUp
  | fuel + 1 => do
    match ← peek with
    | some .dedent =>
      skip
      pure []
    | _ =>
      let first ← statement fuel
      let more ← statementsUpTo fuel
      pure (first ++ more)

end

/-- The statements of a script, up to its end. -/
def statements : Nat → Reader (List Stmt)
  | 0 => giveUp
  | fuel + 1 => do
    match ← peek with
    | none => pure []
    | some _ =>
      let first ← statement fuel
      let more ← statements fuel
      pure (first ++ more)

/-- A whole script. -/
def program (fuel : Nat) : Reader (List Stmt) := do
  newlines fuel
  statements fuel

end Reader

/-- The statements that lexemes write. -/
def readProgram (lexemes : List Lexeme) : Except SyntaxFault (List Stmt) :=
  match Reader.program (24 * (lexemes.length + 2)) ⟨lexemes, []⟩ with
  | none => .error .unreadable
  | some (body, cursor) =>
    match cursor.faults.getLast? with
    | some fault => .error fault
    | none => .ok body

end Lookout.Script
