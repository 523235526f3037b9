import RoutePaths.Proofs.Function.Expression

/-! Reading a `return` statement back from its lines. The lines are cut into
tokens, and the tokens drive a machine that keeps the operands still waiting
for their right-hand sides, bracket by bracket. A line may only end inside a
bracket. The machine accepts the forms of `Expression` and nothing else. -/
namespace RoutePaths.Statement

inductive Token where
  | word (text : String)
  | text (value : String)
  | opening
  | closing
  | plus
  | lineEnd
  deriving DecidableEq, Repr

/-- Where a line is being read: in a word, or in a string literal. What has
been read of it is kept in reverse. -/
inductive Place where
  | outside (word : List Char)
  | inText (written : List Char)

/-- A word that has ended, if there is one. -/
def endWord (word : List Char) : List Token :=
  if word = [] then [] else [.word (String.ofList word.reverse)]

/-- The token of a mark. Blanks only separate tokens. -/
def mark? : Char → Option (List Token)
  | '(' => some [.opening]
  | ')' => some [.closing]
  | '+' => some [.plus]
  | ' ' => some []
  | _ => none

/-- The text that was written as a string literal. -/
def literalText? (written : List Char) : Option String :=
  match Json.read? (String.ofList written) with
  | some (.text value) => some value
  | _ => none

/-- The tokens of a line. Literals are read as the texts that they were
written for. -/
def tokens? : Place → List Char → Option (List Token)
  | .inText _, [] => none
  | .inText written, '\\' :: c :: rest => tokens? (.inText (c :: '\\' :: written)) rest
  | .inText written, '"' :: rest => do
    let value ← literalText? ('"' :: (written.reverse ++ ['"']))
    return .text value :: (← tokens? (.outside []) rest)
  | .inText written, c :: rest =>
    if c = '\n' || c = '\r' then none else tokens? (.inText (c :: written)) rest
  | .outside word, [] => some (endWord word)
  | .outside word, c :: rest =>
    if Name.isSafeChar c then tokens? (.outside (c :: word)) rest
    else if c = '"' then if word = [] then tokens? (.inText []) rest else none
    else do return endWord word ++ (← mark? c) ++ (← tokens? (.outside []) rest)

/-- The tokens of a line that starts a token of its own. -/
def lineTokens? (line : String) : Option (List Token) :=
  tokens? (.outside []) line.toList

/-- The tokens of a statement. -/
def allTokens? : List String → Option (List Token)
  | [] => some []
  | line :: rest => do
    let first ← lineTokens? line
    let others ← rest.mapM lineTokens?
    return first ++ others.flatMap (.lineEnd :: ·)

/-- Something that waits for an operand on its right. -/
inductive Frame where
  | sum (left : Expression)
  | same (left : Expression)
  | either (left : Expression)
  | condition (value : Expression)
  | other (value condition : Expression)
  deriving DecidableEq, Repr

namespace Frame

/-- How tightly an operator binds. -/
def strength : Frame → Nat
  | sum _ => 3
  | same _ => 2
  | either _ => 1
  | condition _ => 0
  | other _ _ => 0

/-- The expression that an operand completes. A condition is not complete
before its `else`. -/
def complete? (operand : Expression) : Frame → Option Expression
  | sum left => some (.sum left operand)
  | same left => some (.same left operand)
  | either left => some (.either left operand)
  | condition _ => none
  | other value test => some (.choice value test operand)

end Frame

/-- Completes the frames that bind at least as tightly as asked for. -/
def settle (strength : Nat) (operand : Expression) : List Frame → Expression × List Frame
  | [] => (operand, [])
  | frame :: rest =>
    if strength ≤ frame.strength then
      match frame.complete? operand with
      | some whole => settle strength whole rest
      | none => (operand, frame :: rest)
    else (operand, frame :: rest)

/-- The state of the machine: the operand that has just been read, the frames
of the innermost bracket, and for each bracket that is open the function
called with it, if any, and the frames around it. -/
structure Reader where
  operand : Option Expression
  frames : List Frame
  around : List (Option String × List Frame)
  deriving DecidableEq, Repr

namespace Reader

def start : Reader := ⟨none, [], []⟩

/-- An operand that is written down. Two operands never follow each other. -/
def give (reader : Reader) (operand : Expression) : Option Reader :=
  match reader.operand with
  | none => some { reader with operand := some operand }
  | some _ => none

/-- An operator that leaves frames of less strength open. -/
def operator (reader : Reader) (strength : Nat)
    (push : Expression → List Frame → Option (List Frame)) : Option Reader :=
  match reader.operand with
  | none => none
  | some operand =>
    let settled := settle strength operand reader.frames
    (push settled.1 settled.2).map fun frames => { reader with operand := none, frames := frames }

/-- A word of the statement. Comparisons are not chained, and a condition
holds no second one. -/
def word (reader : Reader) (text : String) : Option Reader :=
  if text = "None" then reader.give .absent
  else if text = "or" then reader.operator 1 fun left frames => some (.either left :: frames)
  else if text = "is" then reader.operator 3 fun left frames => match frames with
    | .same _ :: _ => none
    | frames => some (.same left :: frames)
  else if text = "if" then reader.operator 1 fun value frames => match frames with
    | .condition _ :: _ => none
    | frames => some (.condition value :: frames)
  else if text = "else" then reader.operator 1 fun condition frames => match frames with
    | .condition value :: frames => some (.other value condition :: frames)
    | _ => none
  else if Name.isLegal text then reader.give (.name text)
  else none

/-- A bracket behind a name is a call. -/
def open? (reader : Reader) : Option Reader :=
  match reader.operand with
  | none => some ⟨none, [], (none, reader.frames) :: reader.around⟩
  | some (.name function) => some ⟨none, [], (some function, reader.frames) :: reader.around⟩
  | some _ => none

/-- The expression since the innermost bracket. -/
def whole? (reader : Reader) : Option Expression :=
  match reader.operand with
  | none => none
  | some operand =>
    match settle 0 operand reader.frames with
    | (whole, []) => some whole
    | _ => none

def close? (reader : Reader) : Option Reader :=
  match reader.whole?, reader.around with
  | some whole, (none, frames) :: around => some ⟨some whole, frames, around⟩
  | some argument, (some function, frames) :: around =>
    some ⟨some (.call function argument), frames, around⟩
  | _, _ => none

def step (reader : Reader) : Token → Option Reader
  | .text value => reader.give (.text value)
  | .word text => reader.word text
  | .opening => reader.open?
  | .closing => reader.close?
  | .plus => reader.operator 3 fun left frames => some (.sum left :: frames)
  | .lineEnd => if reader.around = [] then none else some reader

def run (reader : Reader) (tokens : List Token) : Option Reader :=
  tokens.foldlM step reader

/-- The expression at the end of the tokens. -/
def finish? (reader : Reader) : Option Expression :=
  if reader.around = [] then reader.whole? else none

end Reader

/-- The expression that the statement returns. -/
def returned? (lines : List String) : Option Expression := do
  match ← allTokens? lines with
  | .word "return" :: rest => (← Reader.start.run rest).finish?
  | _ => none

end RoutePaths.Statement
