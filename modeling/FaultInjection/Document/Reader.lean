import FaultInjection.Decimal.Reader
import FaultInjection.Document.Basic
import FaultInjection.Text.Ranges

namespace FaultInjection.Document

structure Dialect where
  depth : Nat
  surrogates : Bool
  raw : Char → Bool

namespace Reader

open FaultInjection.Decimal (takeDigits)

def isBlank (c : Char) : Bool :=
  c = ' ' || c = '\n' || c = '\t' || c = '\r'

def skip (s : List Char) : List Char :=
  s.dropWhile isBlank

def fraction? : List Char → Option (List Char × List Char)
  | '.' :: r =>
    let (ds, r) := takeDigits r
    if ds.isEmpty then none else some ('.' :: ds, r)
  | r => some ([], r)

def exponent? : List Char → Option (List Char × List Char)
  | c :: r =>
    if c = 'e' ∨ c = 'E' then
      let (sign, r) := match r with
        | '-' :: r => (['-'], r)
        | '+' :: r => (['+'], r)
        | r => ([], r)
      let (ds, r) := takeDigits r
      if ds.isEmpty then none else some (c :: sign ++ ds, r)
    else some ([], c :: r)
  | [] => some ([], [])

def numeral? (s : List Char) : Option (List Char × List Char) := do
  let (whole, r) := takeDigits s
  if whole.isEmpty ∨ (whole.length ≠ 1 ∧ whole.head? = some '0') then none
  else
    let (fraction, r) ← fraction? r
    let (exponent, r) ← exponent? r
    pure (whole ++ fraction ++ exponent, r)

def number? (sign : List Char) (s : List Char) : Option (Document × List Char) :=
  (numeral? s).map fun (ds, r) => (.word (String.ofList (sign ++ ds)), r)

def unit? : List Char → Option (Nat × List Char)
  | a :: b :: c :: d :: r => (Text.hexNumber? [a, b, c, d]).map (·, r)
  | _ => none

def escapedChar (d : Dialect) (s : List Char) : Option (Char × List Char) := do
  let (n, r) ← unit? s
  if 0xD800 ≤ n ∧ n < 0xDC00 ∧ d.surrogates then
    match r with
    | '\\' :: 'u' :: r =>
      let (m, r) ← unit? r
      if 0xDC00 ≤ m ∧ m < 0xE000 then
        pure (Char.ofNat (0x10000 + (n - 0xD800) * 0x400 + (m - 0xDC00)), r)
      else none
    | _ => none
  else if 0xD800 ≤ n ∧ n < 0xE000 then none
  else pure (Char.ofNat n, r)

def simpleEscape? : Char → Option Char
  | '"' => some '"'
  | '\\' => some '\\'
  | '/' => some '/'
  | 'b' => some '\x08'
  | 'f' => some '\x0c'
  | 'n' => some '\n'
  | 'r' => some '\r'
  | 't' => some '\t'
  | _ => none

def text (d : Dialect) : Nat → List Char → List Char → Option (String × List Char)
  | 0, _, _ => none
  | _, _, [] => none
  | fuel + 1, acc, c :: r =>
    if c = '"' then some (String.ofList acc.reverse, r)
    else if c = '\\' then
      match r with
      | 'u' :: r => do
        let (c, r) ← escapedChar d r
        text d fuel (c :: acc) r
      | e :: r => do
        let c ← simpleEscape? e
        text d fuel (c :: acc) r
      | [] => none
    else if d.raw c then text d fuel (c :: acc) r
    else none

mutual

/-- One value; `depth` is the nesting that is still allowed, `fuel` exceeds the length of `s`. -/
def value (d : Dialect) (fuel depth : Nat) (s : List Char) : Option (Document × List Char) :=
  match fuel with
  | 0 => none
  | fuel + 1 =>
    match skip s with
    | 'n' :: 'u' :: 'l' :: 'l' :: r => some (.word "null", r)
    | 't' :: 'r' :: 'u' :: 'e' :: r => some (.word "true", r)
    | 'f' :: 'a' :: 'l' :: 's' :: 'e' :: r => some (.word "false", r)
    | '"' :: r => (text d r.length.succ [] r).map fun (s, r) => (.quoted s, r)
    | '-' :: r => number? ['-'] r
    | '[' :: r =>
      if depth = 0 then none
      else
        match skip r with
        | ']' :: r => some (.array [], r)
        | r => (items d fuel (depth - 1) r).map fun (js, r) => (.array js, r)
    | '{' :: r =>
      if depth = 0 then none
      else
        match skip r with
        | '}' :: r => some (.object [], r)
        | r => (members d fuel (depth - 1) r).map fun (ms, r) => (.object ms, r)
    | r => number? [] r

def items (d : Dialect) (fuel depth : Nat) (s : List Char) :
    Option (List Document × List Char) :=
  match fuel with
  | 0 => none
  | fuel + 1 => do
    let (j, r) ← value d fuel depth s
    match skip r with
    | ',' :: r =>
      let (js, r) ← items d fuel depth r
      pure (j :: js, r)
    | ']' :: r => pure ([j], r)
    | _ => none

def members (d : Dialect) (fuel depth : Nat) (s : List Char) :
    Option (List (String × Document) × List Char) :=
  match fuel with
  | 0 => none
  | fuel + 1 =>
    match skip s with
    | '"' :: r => do
      let (k, r) ← text d r.length.succ [] r
      match skip r with
      | ':' :: r =>
        let (j, r) ← value d fuel depth r
        match skip r with
        | ',' :: r =>
          let (ms, r) ← members d fuel depth r
          pure ((k, j) :: ms, r)
        | '}' :: r => pure ([(k, j)], r)
        | _ => none
      | _ => none
    | _ => none

end

end Reader

def parse? (d : Dialect) (s : List Char) : Option Document := do
  let (j, r) ← Reader.value d (s.length + 1) d.depth s
  match Reader.skip r with
  | [] => pure j
  | _ => none

end FaultInjection.Document
