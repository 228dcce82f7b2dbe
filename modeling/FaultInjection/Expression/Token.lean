import FaultInjection.Decimal.Reader
import FaultInjection.Text.Quoted
import FaultInjection.Text.Space
import FaultInjection.Text.Ranges

/-!
Tokens of expressions. The text is first cut into pieces, which are single symbols, blanks,
quoted texts and runs of other characters; comments leave no trace, so that runs on both sides
of one are a single run. Pieces that touch then make up the operators of several symbols.
-/
namespace FaultInjection.Expression

inductive Piece
  | symbol (c : Char)
  | blank
  | literal (s : List Char)
  | quoted (s : String)
  deriving DecidableEq, Repr

def Piece.text : Piece → String
  | .symbol c => String.singleton c
  | .blank => " "
  | .literal s => String.ofList s
  | .quoted s => Text.quoted s

inductive ReadError
  | illegalEscape (c : Option Char)
  | unmatchedQuote
  | unmatchedComment
  | halfOperator (first : Piece) (next : Option Piece)
  | appendedToLeaf
  | precedenceViolation
  | unmatchedOpening
  | unmatchedClosing
  | missingOperator
  deriving DecidableEq, Repr

def ReadError.message : ReadError → String
  | .illegalEscape (some c) => "Illegal escape sequence: \\" ++ String.singleton c
  | .illegalEscape none => "Illegal escape sequence: \\"
  | .unmatchedQuote => "Found an unmatched double quote '\"'"
  | .unmatchedComment => "Error: unmatched inline comment"
  | .halfOperator first (some next) =>
    "Found a partial token '" ++ first.text ++ "' that should not be followed by '" ++ next.text ++
      "'."
  | .halfOperator first none =>
    "Found a partial token '" ++ first.text ++
      "' that should be followed by another partial token."
  | .appendedToLeaf => "Tried to append a node to a leaf node."
  | .precedenceViolation => "Tried to append a node to another node with higher precedence."
  | .unmatchedOpening => "Found an unmatched opening parenthesis '('."
  | .unmatchedClosing => "Found an unmatched closing parenthesis ')'."
  | .missingOperator =>
    "Found an opening parenthesis that is preceded by something that does not take any " ++
      "arguments on the right, or found a closing parenthesis that is succeeded by something " ++
      "that does not take any arguments on the left."

def isSymbol (c : Char) : Bool :=
  "+-*/%^(),;=!><&|".toList.contains c

/-- What is being read: plain text with the run before it, a comment with the run before it, or a
quoted text. Runs and quoted texts are held in reverse. -/
inductive Mode
  | code (run : List Char)
  | lineComment (run : List Char)
  | blockComment (run : List Char)
  | quote (text : List Char)

def endRun (run : List Char) (ps : List Piece) : List Piece :=
  if run.isEmpty then ps else .literal run.reverse :: ps

def scan : Mode → List Char → Except ReadError (List Piece)
  | .code run, [] | .lineComment run, [] => .ok (endRun run [])
  | .code run, '/' :: '/' :: cs => scan (.lineComment run) cs
  | .code run, '/' :: '*' :: cs => scan (.blockComment run) cs
  | .code run, c :: cs =>
    if c = '"' then (scan (.quote []) cs).map (endRun run)
    else if isSymbol c then (scan (.code []) cs).map fun ps => endRun run (.symbol c :: ps)
    else if Text.isSpace c then (scan (.code []) cs).map fun ps => endRun run (.blank :: ps)
    else scan (.code (c :: run)) cs
  | .lineComment run, c :: cs =>
    if c = '\n' then scan (.code run) cs else scan (.lineComment run) cs
  | .blockComment run, '*' :: '/' :: cs => scan (.code run) cs
  | .blockComment _, [] => .error .unmatchedComment
  | .blockComment run, _ :: cs => scan (.blockComment run) cs
  | .quote text, '"' :: cs =>
    (scan (.code []) cs).map fun ps => .quoted (String.ofList text.reverse) :: ps
  | .quote text, '\\' :: '"' :: cs => scan (.quote ('"' :: text)) cs
  | .quote text, '\\' :: '\\' :: cs => scan (.quote ('\\' :: text)) cs
  | .quote _, '\\' :: c :: _ => .error (.illegalEscape (some c))
  | .quote _, ['\\'] => .error (.illegalEscape none)
  | .quote text, c :: cs => scan (.quote (c :: text)) cs
  | .quote _, [] => .error .unmatchedQuote

def pieces (s : String) : Except ReadError (List Piece) :=
  scan (.code []) s.toList

inductive Token
  | plus | minus | star | slash | percent | hat
  | eq | neq | gt | lt | geq | leq
  | and | or | not
  | opening | closing
  | assign | plusAssign | minusAssign | starAssign | slashAssign | percentAssign | hatAssign
  | andAssign | orAssign
  | comma | semicolon
  | identifier (name : String)
  | float (x : Float)
  | int (i : Int64)
  | bool (b : Bool)
  | str (s : String)

def int? (s : List Char) : Option Int64 :=
  let n := match s with
    | '0' :: 'x' :: ds => Text.hexNumber? ds
    | ds => Decimal.number? ds
  match n with
  | some n => if (n : Int) ≤ Int64.maxValue.toInt then some (Int64.ofNat n) else none
  | none => none

def literal? (s : List Char) : Option Token :=
  match int? s with
  | some i => some (.int i)
  | none =>
    match Decimal.float? s with
    | some x => some (.float x)
    | none =>
      match String.ofList s with
      | "true" => some (.bool true)
      | "false" => some (.bool false)
      | _ => none

def word (s : List Char) : Token :=
  (literal? s).getD (.identifier (String.ofList s))

def signedExponent? (s : List Char) (sign : Char) (next : Piece) : Option Token :=
  if sign = '+' ∨ sign = '-' then
    (Decimal.float? (s ++ sign :: next.text.toList)).map .float
  else none

def withEquals? : Char → Option (Token × Token)
  | '+' => some (.plus, .plusAssign)
  | '-' => some (.minus, .minusAssign)
  | '*' => some (.star, .starAssign)
  | '/' => some (.slash, .slashAssign)
  | '%' => some (.percent, .percentAssign)
  | '^' => some (.hat, .hatAssign)
  | '=' => some (.assign, .eq)
  | '!' => some (.not, .neq)
  | '>' => some (.gt, .geq)
  | '<' => some (.lt, .leq)
  | _ => none

def doubled (c : Char) : Token × Token :=
  if c = '&' then (.and, .andAssign) else (.or, .orAssign)

def symbolToken (c : Char) (next : List Piece) : Except ReadError (Token × Nat) :=
  match withEquals? c with
  | some (alone, equals) =>
    .ok (if next.head? = some (.symbol '=') then (equals, 1) else (alone, 0))
  | none =>
    match c with
    | '(' => .ok (.opening, 0)
    | ')' => .ok (.closing, 0)
    | ',' => .ok (.comma, 0)
    | ';' => .ok (.semicolon, 0)
    | c =>
      if next.head? ≠ some (.symbol c) then .error (.halfOperator (.symbol c) next.head?)
      else if next[1]? = some (.symbol '=') then .ok ((doubled c).2, 2)
      else .ok ((doubled c).1, 1)

def tokenAt (next : List Piece) : Piece → Except ReadError (Option (Token × Nat))
  | .blank => .ok none
  | .quoted s => .ok (some (.str s, 0))
  | .symbol c => (symbolToken c next).map some
  | .literal s =>
    match literal? s, next with
    | none, .symbol c :: p :: _ =>
      match signedExponent? s c p with
      | some t => .ok (some (t, 2))
      | none => .ok (some (word s, 0))
    | _, _ => .ok (some (word s, 0))

def tokensOf : (skip : Nat) → List Piece → Except ReadError (List Token)
  | _, [] => .ok []
  | skip + 1, _ :: ps => tokensOf skip ps
  | 0, p :: ps => do
    match (← tokenAt ps p) with
    | some (t, taken) => (tokensOf taken ps).map (t :: ·)
    | none => tokensOf 0 ps

def tokens (s : String) : Except ReadError (List Token) := do
  tokensOf 0 (← pieces s)

end FaultInjection.Expression
