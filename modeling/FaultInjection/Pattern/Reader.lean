import FaultInjection.Decimal.Reader
import FaultInjection.Pattern.Regex
import FaultInjection.Property.Name
import FaultInjection.Text.Space

/-!
Reading regular expressions. Every function takes the rest of the text and gives what it read
with the new rest, or nothing if the text is malformed. `x` says whether blanks and comments are
skipped.
-/
namespace FaultInjection.Regex.Reader

open FaultInjection (Text.isSpace)

def skipBlanks : (comment : Bool) → List Char → List Char
  | _, [] => []
  | true, c :: cs => skipBlanks (c ≠ '\n') cs
  | false, c :: cs =>
    if Text.isSpace c then skipBlanks false cs
    else if c = '#' then skipBlanks true cs
    else c :: cs

def skip (x : Bool) (cs : List Char) : List Char :=
  if x then skipBlanks false cs else cs

def skipMore? (x : Bool) (cs : List Char) : Option (List Char) :=
  match skip x cs with
  | [] => none
  | cs => some cs

def run (x : Bool) (p : Char → Bool) : Nat → List Char → List Char × List Char
  | 0, cs => ([], cs)
  | _ + 1, [] => ([], [])
  | n + 1, c :: cs =>
    if p c then
      let (ds, r) := run x p n (skip x cs)
      (c :: ds, r)
    else ([], c :: cs)

def decimal? (x : Bool) (cs : List Char) : Option (Nat × List Char) :=
  let cs := cs.dropWhile Text.isSpace
  let (ds, cs) := run x (fun c => (Decimal.digit? c).isSome) cs.length cs
  match Decimal.number? ds with
  | some n => if n < UInt32.size then some (n, skip x (cs.dropWhile Text.isSpace)) else none
  | none => none

def isMeta (c : Char) : Bool :=
  "\\.+*?()|[]\x7b\x7d^$#&-~".toList.contains c

def isEscapable (c : Char) : Bool :=
  c.toNat < 0x80 && !c.isAlphanum && c ≠ '<' && c ≠ '>'

inductive Atom
  | literal (l : Literal)
  | mark (m : Mark)
  | named (n : Named) (negated : Bool)

def Atom.toRegex : Atom → Regex
  | .literal l => .literal l
  | .mark m => .mark m
  | .named n negated => .named n negated

def Atom.toSet? : Atom → Option ClassSet
  | .literal l => some (.literal l)
  | .named n negated => some (.named n negated)
  | .mark _ => none

def Atom.literal? : Atom → Option Literal
  | .literal l => some l
  | _ => none

def codePoint? (hex : List Char) : Option Char := do
  let n ← Text.hexNumber? hex
  if n < 0xD800 ∨ (0xDFFF < n ∧ n < 0x110000) then some (Char.ofNat n) else none

def hexDigits? (x : Bool) : Nat → List Char → List Char → Option (Char × List Char)
  | 0, acc, cs => (codePoint? acc.reverse).map (·, skip x cs)
  | n + 1, acc, cs =>
    match (if acc.isEmpty then cs else skip x cs) with
    | c :: cs => if (Text.hexDigit? c).isSome then hexDigits? x n (c :: acc) cs else none
    | [] => none

def hexBrace? (x : Bool) (cs : List Char) : Option (Char × List Char) := do
  let cs ← skipMore? x cs
  let (ds, cs) := run x (fun c => (Text.hexDigit? c).isSome) cs.length cs
  match cs with
  | '}' :: cs => (codePoint? ds).map (·, skip x cs)
  | _ => none

def hex? (x : Bool) (digits : Nat) (cs : List Char) : Option (Atom × List Char) := do
  match (← skipMore? x cs) with
  | '{' :: cs =>
    let (c, cs) ← hexBrace? x cs
    pure (.literal ⟨c, false⟩, cs)
  | cs =>
    let (c, cs) ← hexDigits? x digits [] cs
    pure (.literal ⟨c, digits = 2⟩, cs)

def unicodeClass? (x negated : Bool) (cs : List Char) : Option (Atom × List Char) := do
  match (← skipMore? x cs) with
  | '{' :: cs =>
    let cs ← skipMore? x cs
    let (name, cs) := run x (· ≠ '}') cs.length cs
    match cs with
    | _ :: cs =>
      let (set, flipped) ← Property.parse? name
      pure (.named (.property set) (negated != flipped), cs)
    | [] => none
  | '\\' :: _ => none
  | c :: cs =>
    let set ← Property.named? (Property.looseName [c])
    pure (.named (.property set) negated, skip x cs)
  | [] => none

def boundary? (x : Bool) (cs : List Char) : Option (Mark × List Char) :=
  match cs with
  | '{' :: inner => do
    let letters (c : Char) := c.isAlpha || c = '-'
    let inner ← skipMore? x inner
    let (name, rest) := run x letters inner.length inner
    if name.isEmpty then pure (.boundary, cs)
    else
      match rest with
      | '}' :: rest =>
        match String.ofList name with
        | "start" => pure (.wordStart, rest)
        | "end" => pure (.wordEnd, rest)
        | "start-half" => pure (.wordStartHalf, rest)
        | "end-half" => pure (.wordEndHalf, rest)
        | _ => none
      | _ => none
  | cs => some (.boundary, cs)

def escape? (x : Bool) (cs : List Char) : Option (Atom × List Char) :=
  let char (c : Char) (cs : List Char) := some (Atom.literal ⟨c, false⟩, cs)
  match cs with
  | [] => none
  | 'x' :: cs => hex? x 2 cs
  | 'u' :: cs => hex? x 4 cs
  | 'U' :: cs => hex? x 8 cs
  | 'p' :: cs => unicodeClass? x false cs
  | 'P' :: cs => unicodeClass? x true cs
  | 'd' :: cs => some (.named .digit false, cs)
  | 'D' :: cs => some (.named .digit true, cs)
  | 's' :: cs => some (.named .space false, cs)
  | 'S' :: cs => some (.named .space true, cs)
  | 'w' :: cs => some (.named .word false, cs)
  | 'W' :: cs => some (.named .word true, cs)
  | 'a' :: cs => char '\x07' cs
  | 'f' :: cs => char '\x0c' cs
  | 't' :: cs => char '\t' cs
  | 'n' :: cs => char '\n' cs
  | 'r' :: cs => char '\r' cs
  | 'v' :: cs => char '\x0b' cs
  | 'A' :: cs => some (.mark .textStart, cs)
  | 'z' :: cs => some (.mark .textEnd, cs)
  | 'B' :: cs => some (.mark .notBoundary, cs)
  | '<' :: cs => some (.mark .wordStart, cs)
  | '>' :: cs => some (.mark .wordEnd, cs)
  | 'b' :: cs => (boundary? x cs).map fun (m, cs) => (.mark m, cs)
  | c :: cs => if isMeta c || isEscapable c then char c cs else none

def posixNames : List (String × Posix) :=
  [("alnum", .alnum), ("alpha", .alpha), ("ascii", .ascii), ("blank", .blank),
    ("cntrl", .cntrl), ("digit", .digit), ("graph", .graph), ("lower", .lower),
    ("print", .print), ("punct", .punct), ("space", .space), ("upper", .upper),
    ("word", .word), ("xdigit", .xdigit)]

def posix? (cs : List Char) : Option (ClassSet × List Char) := do
  let (negated, cs) ← match cs with
    | ':' :: '^' :: cs => some (true, cs)
    | ':' :: cs => some (false, cs)
    | _ => none
  let (name, cs) := cs.span (· ≠ ':')
  match cs with
  | ':' :: ']' :: cs =>
    let (_, k) ← posixNames.find? (·.1 = String.ofList name)
    pure (.named (.posix k) negated, cs)
  | _ => none

def classStart? (x : Bool) (cs : List Char) : Option (Bool × List ClassSet × List Char) := do
  let cs ← skipMore? x cs
  let (negated, cs) ← match cs with
    | '^' :: cs => (skipMore? x cs).map (true, ·)
    | cs => some (false, cs)
  let (dashes, cs) := run x (· = '-') cs.length cs
  match dashes, cs with
  | _, [] => none
  | [], ']' :: cs =>
    let cs ← skipMore? x cs
    pure (negated, [.literal ⟨']', false⟩], cs)
  | dashes, cs => pure (negated, dashes.map fun c => .literal ⟨c, false⟩, cs)

def peek (x : Bool) (cs : List Char) : Option Char :=
  if x then
    match cs.dropWhile Text.isSpace with
    | '#' :: cs => (cs.dropWhile Text.isSpace).head?
    | [] => cs.head?
    | c :: _ => some c
  else cs.head?

def classAtom? (x : Bool) : List Char → Option (Atom × List Char)
  | [] => none
  | '\\' :: cs => escape? x cs
  | c :: cs => some (.literal ⟨c, false⟩, cs)

def classItem? (x : Bool) (cs : List Char) : Option (ClassSet × List Char) := do
  let (first, cs) ← classAtom? x cs
  let cs ← skipMore? x cs
  match cs with
  | '-' :: r =>
    if peek x r = some ']' ∨ peek x r = some '-' then pure (← first.toSet?, cs)
    else
      let r ← skipMore? x r
      let (last, r) ← classAtom? x r
      let lo ← first.literal?
      let hi ← last.literal?
      if lo.char ≤ hi.char then pure (.range lo hi, r) else none
  | cs => pure (← first.toSet?, cs)

def itemsOf (reversed : List ClassSet) : ClassSet :=
  match reversed with
  | [] => .nothing
  | [s] => s
  | ss => .union ss.reverse

def applyOp (pending : Option (SetOp × ClassSet)) (s : ClassSet) : ClassSet :=
  match pending with
  | none => s
  | some (o, lhs) => .op o lhs s

/-- The rest of a class up to its closing bracket. `items` are those of the union that is being
read, in reverse, and `pending` is the operation that waits for it. -/
def classBody? (x : Bool) : Nat → List ClassSet → Option (SetOp × ClassSet) → List Char →
    Option (ClassSet × List Char)
  | 0, _, _, _ => none
  | fuel + 1, items, pending, cs =>
    let operate (o : SetOp) (r : List Char) :=
      classBody? x fuel [] (some (o, applyOp pending (itemsOf items))) r
    match skip x cs with
    | [] => none
    | '[' :: r =>
      match posix? r with
      | some (s, r) => classBody? x fuel (s :: items) pending r
      | none => do
        let (negated, start, r) ← classStart? x r
        let (inner, r) ← classBody? x fuel start.reverse none r
        classBody? x fuel (.bracket negated inner :: items) pending r
    | ']' :: r => some (applyOp pending (itemsOf items), r)
    | '&' :: '&' :: r => operate .meet r
    | '-' :: '-' :: r => operate .minus r
    | '~' :: '~' :: r => operate .differ r
    | r => do
      let (s, r) ← classItem? x r
      classBody? x fuel (s :: items) pending r

def bracket? (x : Bool) (cs : List Char) : Option (Regex × List Char) := do
  let (negated, start, r) ← classStart? x cs
  let (inner, r) ← classBody? x (cs.length + 1) start.reverse none r
  pure (.bracket negated inner, r)

def dropLazy : List Char → List Char
  | '?' :: cs => cs
  | cs => cs

def counts? (x : Bool) (cs : List Char) : Option (Nat × Option Nat × List Char) := do
  let (least, cs) ← decimal? x (← skipMore? x cs)
  let close (most : Option Nat) : List Char → Option (Nat × Option Nat × List Char)
    | '}' :: cs =>
      if most.all (least ≤ ·) then some (least, most, dropLazy (skip x cs)) else none
    | _ => none
  match cs with
  | ',' :: cs =>
    match (← skipMore? x cs) with
    | '}' :: cs => close none ('}' :: cs)
    | cs =>
      let (most, cs) ← decimal? x cs
      close (some most) cs
  | cs => close (some least) cs

def repeatLast? (least : Nat) (most : Option Nat) : List Regex → Option (List Regex)
  | [] => none
  | .flags _ :: _ => none
  | .empty :: _ => none
  | r :: rs => some (.rep r least most :: rs)

def flag? : Char → Option Flag
  | 'i' => some .ignoreCase
  | 'm' => some .multiLine
  | 's' => some .dotNewline
  | 'U' => some .swapGreed
  | 'u' => some .unicode
  | 'R' => some .crlf
  | 'x' => some .ignoreSpace
  | _ => none

def flags? (on : Bool) (afterDash : Bool) (acc : List FlagChange) :
    List Char → Option (List FlagChange × List Char)
  | [] => none
  | c :: cs =>
    if c = ':' ∨ c = ')' then if afterDash then none else some (acc.reverse, c :: cs)
    else if c = '-' then if on then flags? false true acc cs else none
    else
      match flag? c with
      | some f => if acc.any (·.1 = f) then none else flags? on false ((f, on) :: acc) cs
      | none => none

def isNameStart (c : Char) : Bool :=
  c = '_' || Text.isAlphabetic c

def isNameChar (c : Char) : Bool :=
  c = '_' || c = '.' || c = '[' || c = ']' || Text.isAlphanumeric c

def groupName? (cs : List Char) : Option (String × List Char) :=
  let (name, rest) := cs.span isNameChar
  match name, rest with
  | c :: _, '>' :: rest => if isNameStart c then some (String.ofList name, rest) else none
  | _, _ => none

inductive Opening
  | change (changes : List FlagChange)
  | group (captures : Bool) (name : Option String) (changes : List FlagChange)

def opening? (x : Bool) (cs : List Char) : Option (Opening × List Char) :=
  match skip x cs with
  | '?' :: '=' :: _ | '?' :: '!' :: _ => none
  | '?' :: '<' :: '=' :: _ | '?' :: '<' :: '!' :: _ => none
  | '?' :: 'P' :: '<' :: cs | '?' :: '<' :: cs =>
    (groupName? cs).map fun (name, cs) => (.group true (some name) [], cs)
  | '?' :: cs => do
    let (changes, cs) ← flags? true false [] cs
    match cs with
    | ')' :: cs => if changes.isEmpty then none else pure (.change changes, cs)
    | _ :: cs => pure (.group false none changes, cs)
    | [] => none
  | cs => some (.group true none [], cs)

def ignoresSpace (changes : List FlagChange) (x : Bool) : Bool :=
  match changes.find? (·.1 = .ignoreSpace) with
  | some (_, on) => on
  | none => x

def seqOf (reversed : List Regex) : Regex :=
  match reversed with
  | [] => .empty
  | [r] => r
  | rs => .seq rs.reverse

/-- The rest of a group. `parts` are those of the sequence that is being read and `branches` the
alternatives before it, both in reverse. A closing parenthesis stays. -/
def body? : Nat → (x : Bool) → (parts branches : List Regex) → List Char →
    Option (Regex × List Char)
  | 0, _, _, _, _ => none
  | fuel + 1, x, parts, branches, cs =>
    let finish (r : List Char) :=
      match branches with
      | [] => some (seqOf parts, r)
      | bs => some (.alt (seqOf parts :: bs).reverse, r)
    let repeated (least : Nat) (most : Option Nat) (r : List Char) := do
      body? fuel x (← repeatLast? least most parts) branches r
    match skip x cs with
    | [] => finish []
    | ')' :: r => finish (')' :: r)
    | '|' :: r => body? fuel x [] (seqOf parts :: branches) r
    | '(' :: r => do
      match (← opening? x r) with
      | (.change changes, r) =>
        body? fuel (ignoresSpace changes x) (.flags changes :: parts) branches r
      | (.group captures name changes, r) =>
        let (inner, r) ← body? fuel (ignoresSpace changes x) [] [] r
        match r with
        | _ :: r => body? fuel x (.group captures name changes inner :: parts) branches r
        | [] => none
    | '[' :: r => do
      let (set, r) ← bracket? x r
      body? fuel x (set :: parts) branches r
    | '?' :: r => repeated 0 (some 1) (dropLazy r)
    | '*' :: r => repeated 0 none (dropLazy r)
    | '+' :: r => repeated 1 none (dropLazy r)
    | '{' :: r => do
      if parts.isEmpty then none
      else
        let (least, most, r) ← counts? x r
        repeated least most r
    | '\\' :: r => do
      let (atom, r) ← escape? x r
      body? fuel x (atom.toRegex :: parts) branches r
    | '.' :: r => body? fuel x (.dot :: parts) branches r
    | '^' :: r => body? fuel x (.mark .caret :: parts) branches r
    | '$' :: r => body? fuel x (.mark .dollar :: parts) branches r
    | c :: r => body? fuel x (.literal ⟨c, false⟩ :: parts) branches r

end Reader

def maxHeight : Nat := 250

def parse? (s : String) : Option Regex := do
  let cs := s.toList
  let (r, rest) ← Reader.body? (cs.length + 1) false [] [] cs
  if rest.isEmpty ∧ r.height ≤ maxHeight ∧ r.groupNames.Nodup then pure r else none

end FaultInjection.Regex
