import Canvasflow.Entries
import Canvasflow.Number.Written
import Canvasflow.Program.Syntax
import Canvasflow.Program.Token
import Canvasflow.Text.Quoted

/-!
# Reading program text

A descent over the tokens of a text, for the two grammars of programs: a mapping, which is read as
a body that returns it, and a body in braces after an empty parameter list. Every nesting construct
takes one level of a limited room, so the descent is structural on the room that is left; the loops
over arguments, entries, statements and chains of operators are structural on a bound of the tokens
that are left. The rooms of the two grammars are chosen so that a mapping has the same room in
both.
-/

namespace Canvasflow.Program

/-- Why a text is not a program. -/
inductive SyntaxFault where
  | unexpectedCharacter (c : Char) (position : Position)
  | expected (wanted : String) (found : Token)
  | afterEnd (found : Token)
  | unterminatedBlock (position : Position)
  | missingInitializer (name : String) (position : Position)
  | invalidTarget (position : Position)
  | invalidOperand (op : String) (position : Position)
  | expectedProperty (found : Token)
  | unexpectedToken (found : Token)
  | unexpectedEntry (found : Token)
  | missingColon (key : String) (position : Position)
  | nestedTooDeeply
  deriving DecidableEq, Repr

/-- A message with the place it is about. -/
def Position.locate (position : Position) (message : String) : String :=
  message ++ " (line " ++ toString position.line ++ ", column " ++ toString position.column ++ ")"

/-- What a fault tells the author of a program. -/
def SyntaxFault.message : SyntaxFault → String
  | unexpectedCharacter c position =>
    position.locate ("Unexpected character " ++ Text.quoted (String.singleton c))
  | expected wanted found =>
    found.position.locate
      ("Expected " ++ Text.quoted wanted ++ " but found " ++ Text.quoted found.shown)
  | afterEnd found =>
    found.position.locate ("Unexpected " ++ Text.quoted found.value ++ " after end of program")
  | unterminatedBlock position => position.locate "Unterminated block, expected '\x7d'"
  | missingInitializer name position =>
    position.locate ("Missing initializer in const declaration " ++ Text.quoted name)
  | invalidTarget position => position.locate "Invalid assignment target"
  | invalidOperand op position => position.locate ("Invalid operand for " ++ op)
  | expectedProperty found =>
    found.position.locate ("Expected property name but found " ++ Text.quoted found.value)
  | unexpectedToken found =>
    found.position.locate ("Unexpected token " ++ Text.quoted found.shown ++ " in expression")
  | unexpectedEntry found =>
    found.position.locate ("Unexpected token " ++ Text.quoted found.shown ++ " in object literal")
  | missingColon key position => position.locate ("Expected ':' after key " ++ Text.quoted key)
  | nestedTooDeeply => "Program nested too deeply"

/-- The tokens of a text. -/
def tokenize (source : String) : Except SyntaxFault (List Token) :=
  match tokensFrom .start (pieces source.toList) with
  | .ok tokens => .ok tokens
  | .error (c, position) => .error (.unexpectedCharacter c position)

/-- A reader takes tokens off the front of a list. -/
abbrev Reader := StateT (List Token) (Except SyntaxFault)

namespace Reader

/-- Whether the token is of the kind, with the value. -/
def isToken (kind : TokenKind) (value : String) (token : Token) : Bool :=
  token.kind == kind && token.value == value

/-- The first token. -/
def current : Reader Token := do
  return ((← get).head?).getD ⟨.endOfText, "", .start⟩

/-- Go past the first token. -/
def advance : Reader Unit :=
  modify List.tail

/-- Whether the first token is the operator. -/
def atOp (op : String) : Reader Bool := do
  return isToken .op op (← current)

/-- Go past the token if it is the first one, and tell whether it was. -/
def accept (kind : TokenKind) (value : String) : Reader Bool := do
  if isToken kind value (← current) then
    advance
    return true
  else return false

/-- Go past the operator if it is the first token, and tell whether it was. -/
def acceptOp (op : String) : Reader Bool :=
  accept .op op

/-- Go past the operator, which has to be the first token. -/
def expectOp (op : String) : Reader Unit := do
  let token ← current
  if isToken .op op token then advance else throw (.expected op token)

/-- Go past a name, which has to be the first token. -/
def expectName : Reader String := do
  let token ← current
  if token.kind = .name then
    advance
    return token.value
  else throw (.expected TokenKind.name.label token)

/-- Nothing but the end of the text may follow. -/
def expectEnd : Reader Unit := do
  let token ← current
  if token.kind ≠ .endOfText then throw (.afterEnd token)

/-- A bound for the tokens that are left. -/
def bound : Reader Nat := do
  return (← get).length + 1

/-- The operator that the first token is, if the table has it; the token is taken. -/
def acceptFrom {α : Type} (table : List (String × α)) : Reader (Option α) := do
  let token ← current
  if token.kind = .op then
    match Entries.find? token.value table with
    | some op =>
      advance
      return some op
    | none => return none
  else return none

/-- The rest of a chain of operators that group to the left. -/
def chainFrom {α : Type} (operand : Reader Expr) (table : List (String × α))
    (join : Expr → α → Expr → Expr) : Nat → Expr → Reader Expr
  | 0, left => pure left
  | fuel + 1, left => do
    match ← acceptFrom table with
    | some op => chainFrom operand table join fuel (join left op (← operand))
    | none => return left

/-- A chain of operators that group to the left. -/
def chain {α : Type} (operand : Reader Expr) (table : List (String × α))
    (join : Expr → α → Expr → Expr) : Reader Expr := do
  let first ← operand
  chainFrom operand table join (← bound) first

/-- The multiplying operators. -/
def multiplicativeOps : List (String × BinaryOp) := [("*", .mul), ("/", .div), ("%", .mod)]

/-- The adding operators. -/
def additiveOps : List (String × BinaryOp) := [("+", .add), ("-", .sub)]

/-- The ordering operators. -/
def relationalOps : List (String × BinaryOp) :=
  [("<", .less), (">", .greater), ("<=", .lessEqual), (">=", .greaterEqual)]

/-- The equality operators. -/
def equalityOps : List (String × BinaryOp) :=
  [("==", .equal), ("!=", .notEqual), ("===", .same), ("!==", .notSame)]

/-- The assigning operators. -/
def assignOps : List (String × Option BinaryOp) :=
  [("=", none), ("+=", some .add), ("-=", some .sub), ("*=", some .mul), ("/=", some .div),
    ("%=", some .mod)]

/-- The operators before an operand. -/
def unaryOps : List (String × UnaryOp) := [("!", .not), ("-", .negate), ("+", .plus)]

/-- The stepping operators. -/
def updateOps : List (String × UpdateOp) := [("++", .increment), ("--", .decrement)]

/-- The levels of binary operators over the powers, loosest last. -/
def operators (power : Reader Expr) : Reader Expr :=
  let multiplicative := chain power multiplicativeOps Expr.binary
  let additive := chain multiplicative additiveOps Expr.binary
  let relational := chain additive relationalOps Expr.binary
  let equality := chain relational equalityOps Expr.binary
  let conjunction := chain equality [("&&", LogicalOp.and)] Expr.logical
  let disjunction := chain conjunction [("||", LogicalOp.or)] Expr.logical
  chain disjunction [("??", LogicalOp.orElse)] Expr.logical

/-- A property name after a dot: any word. -/
def memberName : Reader String := do
  let token ← current
  if token.kind = .name ∨ token.kind = .keyword then
    advance
    return token.value
  else throw (.expectedProperty token)

/-- The items of a list up to the closing operator, with commas between them; one more comma may
stand at the end. -/
def itemsUntil (item : Reader Expr) (close : String) : Nat → Reader (List Expr)
  | 0 => pure []
  | fuel + 1 => do
    if ← acceptOp close then return []
    let first ← item
    if !(← atOp close) then expectOp ","
    return first :: (← itemsUntil item close fuel)

/-- The arguments of a call after its opening parenthesis. -/
def arguments (item : Reader Expr) : Reader (List Expr) := do
  itemsUntil item ")" (← bound)

/-- The index of a bracket access after its opening bracket. -/
def bracketIndex (item : Reader Expr) : Reader Expr := do
  let index ← item
  expectOp "]"
  return index

/-- The accesses and calls that follow an expression. -/
def suffixesFrom (item : Reader Expr) : Nat → Expr → Reader Expr
  | 0, expr => pure expr
  | fuel + 1, expr => do
    if ← acceptOp "." then
      suffixesFrom item fuel (.read (.member expr (← memberName) false))
    else if ← acceptOp "?." then
      if ← acceptOp "[" then
        suffixesFrom item fuel (.read (.index expr (← bracketIndex item) true))
      else suffixesFrom item fuel (.read (.member expr (← memberName) true))
    else if ← acceptOp "[" then
      suffixesFrom item fuel (.read (.index expr (← bracketIndex item) false))
    else if ← acceptOp "(" then
      suffixesFrom item fuel (.call expr (← arguments item))
    else return expr

/-- The key that a token writes: a text is unquoted, and a numeral that is not all digits is
written as the double that it stands for. -/
def keyOf (token : Token) : String :=
  match token.kind with
  | .text => unquote token.value
  | .number =>
    if token.value.toList.all Text.isDigit then token.value
    else Double.plain ((Numeral.decimal? token.value.toList).getD Double.notANumber)
  | _ => token.value

/-- Whether a key may start with a token of the kind. -/
def startsKey (kind : TokenKind) : Bool :=
  match kind with
  | .name | .keyword | .text | .number => true
  | .op | .endOfText => false

/-- One part of a record literal. A name alone stands for itself as key and value. -/
def entry (item : Reader Expr) : Reader Entry := do
  let token ← current
  if ← acceptOp "..." then return .spread (← item)
  else if startsKey token.kind then
    advance
    let key := keyOf token
    if ← acceptOp ":" then return .pair key (← item)
    else if token.kind = .name then return .pair key (.read (.name key))
    else throw (.missingColon key token.position)
  else throw (.unexpectedEntry token)

/-- The parts of a record literal up to its closing brace. -/
def entriesFrom (item : Reader Expr) : Nat → Reader (List Entry)
  | 0 => pure []
  | fuel + 1 => do
    if ← acceptOp "\x7d" then return []
    let first ← entry item
    if !(← atOp "\x7d") then expectOp ","
    return first :: (← entriesFrom item fuel)

/-- A record literal. -/
def mapping (item : Reader Expr) : Reader Expr := do
  expectOp "\x7b"
  return .object (← entriesFrom item (← bound))

/-- The double that a numeral writes. -/
def numeralValue (numeral : String) : Float :=
  (Numeral.decimal? numeral.toList).getD Double.notANumber

/-- The value of a word that is a literal. -/
def literalWords : List (String × Literal) :=
  [("true", .bool true), ("false", .bool false), ("null", .null), ("undefined", .null)]

/-- An expression that no operator, access or call extends. -/
def primary (item : Reader Expr) : Reader Expr := do
  let token ← current
  match token.kind with
  | .number =>
    advance
    return .literal (.num (numeralValue token.value))
  | .text =>
    advance
    return .literal (.str (unquote token.value))
  | .keyword =>
    match Entries.find? token.value literalWords with
    | some value =>
      advance
      return .literal value
    | none => throw (.unexpectedToken token)
  | .name =>
    advance
    return .read (.name token.value)
  | .op =>
    if ← acceptOp "(" then
      let expr ← item
      expectOp ")"
      return expr
    else if token.value = "\x7b" then mapping item
    else if ← acceptOp "[" then return .array (← itemsUntil item "]" (← bound))
    else throw (.unexpectedToken token)
  | .endOfText => throw (.unexpectedToken token)

/-- An expression with its accesses and calls, and a stepping operator after it. -/
def stepped (item : Reader Expr) : Reader Expr := do
  let expr ← suffixesFrom item (← bound) (← primary item)
  let token ← current
  match ← acceptFrom updateOps with
  | none => return expr
  | some op => match expr.place? with
    | some target => return .update target op false
    | none => throw (.invalidOperand op.symbol token.position)

mutual

/-- An expression: an assignment, or a conditional over the binary operators. -/
def expression : Nat → Reader Expr
  | 0 => throw .nestedTooDeeply
  | room + 1 => do
    let test ← operators (power room)
    let target ←
      if ← acceptOp "?" then
        let yes ← expression room
        expectOp ":"
        let no ← expression room
        pure (Expr.conditional test yes no)
      else pure test
    let token ← current
    match ← acceptFrom assignOps with
    | none => return target
    | some op => match target.place? with
      | some place => return .assign place op (← expression room)
      | none => throw (.invalidTarget token.position)

/-- A power, which groups to the right. -/
def power : Nat → Reader Expr
  | 0 => throw .nestedTooDeeply
  | room + 1 => do
    let base ← operand room
    if ← acceptOp "**" then return .binary base .pow (← power room)
    else return base

/-- An operand with the operators before and after it. -/
def operand : Nat → Reader Expr
  | 0 => throw .nestedTooDeeply
  | room + 1 => do
    match ← acceptFrom unaryOps with
    | some op => return .unary op (← operand room)
    | none =>
      let token ← current
      match ← acceptFrom updateOps with
      | some op => match (← operand room).place? with
        | some target => return .update target op true
        | none => throw (.invalidOperand op.symbol token.position)
      | none => stepped (expression room)

end

/-- The declaring words. -/
def declarators : List (String × Declarator) :=
  [("const", .constName), ("let", .letName), ("var", .varName)]

/-- The declaring word that the first token is, if it is one; it is taken. -/
def acceptDeclarator : Reader (Option Declarator) := do
  let token ← current
  if token.kind = .keyword then
    match Entries.find? token.value declarators with
    | some declarator =>
      advance
      return some declarator
    | none => return none
  else return none

/-- The declarations after a declaring word. -/
def declarationsFrom (item : Reader Expr) (declarator : Declarator) : Nat → Reader (List Stmt)
  | 0 => pure []
  | fuel + 1 => do
    let name ← expectName
    let value ←
      if ← acceptOp "=" then pure (some (← item))
      else if declarator = .constName then
        throw (.missingInitializer name (← current).position)
      else pure none
    let first := Stmt.declare declarator name value
    if ← acceptOp "," then return first :: (← declarationsFrom item declarator fuel)
    else return [first]

/-- A declaration; one of several names is read as the block of its single declarations. -/
def declaration (item : Reader Expr) (declarator : Declarator) : Reader Stmt := do
  match ← declarationsFrom item declarator (← bound) with
  | [single] => return single
  | several => return .block several

/-- The expression in parentheses after a word. -/
def parenthesized (item : Reader Expr) : Reader Expr := do
  expectOp "("
  let expr ← item
  expectOp ")"
  return expr

/-- The statements of a block up to its closing brace. -/
def statementsFrom (statement : Reader Stmt) : Nat → Reader (List Stmt)
  | 0 => pure []
  | fuel + 1 => do
    if ← acceptOp "\x7d" then return []
    let token ← current
    if token.kind = .endOfText then throw (.unterminatedBlock token.position)
    let first ← statement
    return first :: (← statementsFrom statement fuel)

/-- The statements of a block in braces. -/
def blockBody (statement : Reader Stmt) : Reader (List Stmt) := do
  expectOp "\x7b"
  statementsFrom statement (← bound)

/-- A part of a loop head that ends at the operator, if it is not left out. -/
def optionalUntil (item : Reader Expr) (close : String) : Reader (Option Expr) := do
  if ← atOp close then return none
  else return some (← item)

/-- The start of a loop head. -/
def loopStart (item : Reader Expr) : Reader (Option Stmt) := do
  if ← atOp ";" then return none
  match ← acceptDeclarator with
  | some declarator => return some (← declaration item declarator)
  | none => return some (.expr (← item))

/-- Go past the semicolon that may end a statement. -/
def endStatement : Reader Unit := do
  let _ ← acceptOp ";"

/-- The value that a return statement gives, if it gives one. -/
def returned (item : Reader Expr) : Reader (Option Expr) := do
  let token ← current
  if isToken .op ";" token || isToken .op "\x7d" token || token.kind == .endOfText then return none
  else return some (← item)

/-- A statement. -/
def statement : Nat → Reader Stmt
  | 0 => throw .nestedTooDeeply
  | room + 1 => do
    let item := expression room
    let inner := statement room
    if ← atOp "\x7b" then return .block (← blockBody inner)
    if ← acceptOp ";" then return .empty
    if let some declarator ← acceptDeclarator then
      let stmt ← declaration item declarator
      endStatement
      return stmt
    if ← accept .keyword "if" then
      let test ← parenthesized item
      let yes ← inner
      if ← accept .keyword "else" then return .cond test yes (some (← inner))
      else return .cond test yes none
    if ← accept .keyword "while" then
      let test ← parenthesized item
      return .loop test (← inner)
    if ← accept .keyword "for" then
      expectOp "("
      let start ← loopStart item
      expectOp ";"
      let test ← optionalUntil item ";"
      expectOp ";"
      let next ← optionalUntil item ")"
      expectOp ")"
      return .iterate start test next (← inner)
    if ← accept .keyword "return" then
      let value ← returned item
      endStatement
      return .ret value
    let expr ← item
    endStatement
    return .expr expr

end Reader

/-- The nesting that a mapping may have. -/
def mappingRoom : Nat := 1200

/-- The nesting that a body may have: enough for a mapping that it returns. -/
def bodyRoom : Nat := mappingRoom + 4

/-- Read a mapping over the tokens of a text, as a body that returns it. -/
def readMapping : Reader (List Stmt) := do
  let value ← Reader.mapping (Reader.expression mappingRoom)
  let _ ← Reader.acceptOp ";"
  Reader.expectEnd
  return [.ret (some value)]

/-- Read an empty parameter list and a body over the tokens of a text. -/
def readBody : Reader (List Stmt) := do
  Reader.expectOp "("
  Reader.expectOp ")"
  let body ← Reader.blockBody (Reader.statement bodyRoom)
  Reader.expectEnd
  return body

/-- The two grammars of programs. -/
inductive Grammar where
  | shorthand
  | expanded
  deriving DecidableEq, Repr

/-- The body of a program text. -/
def parse (grammar : Grammar) (source : String) : Except SyntaxFault (List Stmt) := do
  let tokens ← tokenize source
  let reader := match grammar with
    | .shorthand => readMapping
    | .expanded => readBody
  let (body, _) ← reader.run tokens
  return body

end Canvasflow.Program
