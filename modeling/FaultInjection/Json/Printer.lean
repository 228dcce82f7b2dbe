import FaultInjection.Json.Basic
import FaultInjection.Text.Quoted

namespace FaultInjection.Json

namespace Printer

private def pad (ds : List Char) : List Char :=
  List.replicate (4 - ds.length) '0' ++ ds

def escape (c : Char) : List Char :=
  match c with
  | '"' => ['\\', '"']
  | '\\' => ['\\', '\\']
  | c =>
    if c.toNat < 0x20 || c.toNat = 0x7F then '\\' :: 'u' :: pad (Text.hexDigits c.toNat) else [c]

def text (s : String) : String :=
  String.ofList ('"' :: s.toList.flatMap escape ++ ['"'])

end Printer

mutual

def print : Json → String
  | .null => "null"
  | .bool b => if b then "true" else "false"
  | .int n => toString n
  | .float x => if x.isFinite then Decimal.compact.text x else "null"
  | .str s => Printer.text s
  | .array items => "[" ++ printItems items ++ "]"
  | .object members => "\x7b" ++ printMembers members ++ "\x7d"

def printItems : List Json → String
  | [] => ""
  | [j] => print j
  | j :: js => print j ++ "," ++ printItems js

def printMembers : List (String × Json) → String
  | [] => ""
  | [(k, j)] => Printer.text k ++ ":" ++ print j
  | (k, j) :: ms => Printer.text k ++ ":" ++ print j ++ "," ++ printMembers ms

end

end FaultInjection.Json
