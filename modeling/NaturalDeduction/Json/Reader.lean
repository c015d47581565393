import NaturalDeduction.Json.Basic
import NaturalDeduction.Text.Basic

/-! Reading JSON text in two folds: characters become tokens, and a stack machine builds the value
from the tokens. Strings must escape control characters, a number has no needless leading zero,
and when a key is repeated the last value stands at the first place. -/
namespace NaturalDeduction.Json

inductive Token where
  | leftBracket
  | rightBracket
  | leftBrace
  | rightBrace
  | comma
  | colon
  | text (value : String)
  | scalar (value : Json)

namespace Scan

def isWordChar (c : Char) : Bool := c.isAlphanum || c = '-' || c = '+' || c = '.'

def natural (digits : List Char) : Nat := Nat.ofDigitChars 10 digits 0

/-- Digits of the integral part: at least one, and no zero in front of others. -/
def integral? : List Char → Option (List Char × List Char)
  | '0' :: rest => some (['0'], rest)
  | chars =>
      match chars.span Char.isDigit with
      | ([], _) => none
      | parts => some parts

def fraction? : List Char → Option (List Char × List Char)
  | '.' :: rest =>
      match rest.span Char.isDigit with
      | ([], _) => none
      | parts => some parts
  | chars => some ([], chars)

def signed : List Char → Int × List Char
  | '-' :: rest => (-1, rest)
  | '+' :: rest => (1, rest)
  | chars => (1, chars)

def exponent? : List Char → Option Int
  | [] => some 0
  | c :: rest =>
      if c = 'e' || c = 'E' then
        let (sign, digits) := signed rest
        if !digits.isEmpty && digits.all Char.isDigit then some (sign * natural digits) else none
      else none

def number? (chars : List Char) : Option Json := do
  let (negative, unsigned) := match chars with
    | '-' :: rest => (true, rest)
    | chars => (false, chars)
  let (whole, afterWhole) ← integral? unsigned
  if afterWhole.isEmpty then
    return .int (if negative then -natural whole else natural whole)
  let (part, afterPart) ← fraction? afterWhole
  let exponent ← exponent? afterPart
  return .real (.ofDecimal negative (natural (whole ++ part)) (exponent - part.length))

def scalar? (word : List Char) : Option Token :=
  match word with
  | ['n', 'u', 'l', 'l'] => some (.scalar .null)
  | ['t', 'r', 'u', 'e'] => some (.scalar (.bool true))
  | ['f', 'a', 'l', 's', 'e'] => some (.scalar (.bool false))
  | ['N', 'a', 'N'] => some (.scalar (.real .undefined))
  | ['I', 'n', 'f', 'i', 'n', 'i', 't', 'y'] => some (.scalar (.real (.infinite false)))
  | ['-', 'I', 'n', 'f', 'i', 'n', 'i', 't', 'y'] => some (.scalar (.real (.infinite true)))
  | word => (number? word).map .scalar

def simpleEscape? : Char → Option Char
  | '"' => some '"'
  | '\\' => some '\\'
  | '/' => some '/'
  | 'b' => some '\x08'
  | 'f' => some '\x0c'
  | 'n' => some '\n'
  | 'r' => some '\r'
  | 't' => some '\t'
  | _ => none

end Scan

/-- Where the scanner stands; the characters of an unfinished word or string are reversed. -/
inductive Scan where
  | idle
  | word (reversed : List Char)
  | text (reversed : List Char)
  | escape (reversed : List Char)
  /-- Inside `\uXXXX`: digits left, value so far, and the high half of a pair if one came before. -/
  | unit (reversed : List Char) (high : Option Nat) (left value : Nat)
  | pair (reversed : List Char) (high : Nat) (slash : Bool)

namespace Scan

def start (tokens : List Token) (c : Char) : Option (Scan × List Token) :=
  match c with
  | '[' => some (idle, .leftBracket :: tokens)
  | ']' => some (idle, .rightBracket :: tokens)
  | '{' => some (idle, .leftBrace :: tokens)
  | '}' => some (idle, .rightBrace :: tokens)
  | ',' => some (idle, .comma :: tokens)
  | ':' => some (idle, .colon :: tokens)
  | '"' => some (text [], tokens)
  | c =>
      if Text.isBlank c then some (idle, tokens)
      else if isWordChar c then some (word [c], tokens)
      else none

def closeUnit (reversed : List Char) (high : Option Nat) (value : Nat) : Option Scan :=
  match high with
  | some high =>
      if 0xDC00 ≤ value ∧ value ≤ 0xDFFF then
        some (text (Char.ofNat (0x10000 + (high - 0xD800) * 0x400 + (value - 0xDC00)) :: reversed))
      else none
  | none =>
      if 0xD800 ≤ value ∧ value ≤ 0xDBFF then some (pair reversed value false)
      else if 0xDC00 ≤ value ∧ value ≤ 0xDFFF then none
      else some (text (Char.ofNat value :: reversed))

def step : Scan × List Token → Char → Option (Scan × List Token)
  | (idle, tokens), c => start tokens c
  | (word reversed, tokens), c =>
      if isWordChar c then some (word (c :: reversed), tokens)
      else do
        let token ← scalar? reversed.reverse
        start (token :: tokens) c
  | (text reversed, tokens), c =>
      if c = '"' then some (idle, .text (String.ofList reversed.reverse) :: tokens)
      else if c = '\\' then some (escape reversed, tokens)
      else if c.toNat < 0x20 then none
      else some (text (c :: reversed), tokens)
  | (escape reversed, tokens), c =>
      if c = 'u' then some (unit reversed none 3 0, tokens)
      else (simpleEscape? c).map fun escaped => (text (escaped :: reversed), tokens)
  | (unit reversed high left value, tokens), c => do
      let digit ← Text.hexValue? c
      let value := value * 16 + digit
      match left with
      | 0 => (closeUnit reversed high value).map (·, tokens)
      | left + 1 => some (unit reversed high left value, tokens)
  | (pair reversed high false, tokens), c =>
      if c = '\\' then some (pair reversed high true, tokens) else none
  | (pair reversed high true, tokens), c =>
      if c = 'u' then some (unit reversed (some high) 3 0, tokens) else none

def finish : Scan × List Token → Option (List Token)
  | (idle, tokens) => some tokens.reverse
  | (word reversed, tokens) => (scalar? reversed.reverse).map fun token => (token :: tokens).reverse
  | _ => none

end Scan

def tokens? (chars : List Char) : Option (List Token) := do
  let scan ← chars.foldlM Scan.step (Scan.idle, [])
  Scan.finish scan

inductive Frame where
  | items (reversed : List Json)
  | fields (fields : List (String × Json)) (key : String)

inductive Build where
  | due (stack : List Frame)
  | firstItem (stack : List Frame)
  | firstKey (stack : List Frame)
  | nextKey (stack : List Frame) (fields : List (String × Json))
  | colon (stack : List Frame) (fields : List (String × Json)) (key : String)
  | afterItem (stack : List Frame) (reversed : List Json)
  | afterField (stack : List Frame) (fields : List (String × Json))
  | done (value : Json)

namespace Build

def deliver (value : Json) : List Frame → Build
  | [] => done value
  | .items reversed :: stack => afterItem stack (value :: reversed)
  | .fields fields key :: stack => afterField stack (put key value fields)

def enter (stack : List Frame) : Token → Option Build
  | .leftBracket => some (firstItem stack)
  | .leftBrace => some (firstKey stack)
  | .text value => some (deliver (.str value) stack)
  | .scalar value => some (deliver value stack)
  | _ => none

def step : Build → Token → Option Build
  | due stack, token => enter stack token
  | firstItem stack, .rightBracket => some (deliver (.arr []) stack)
  | firstItem stack, token => enter (.items [] :: stack) token
  | firstKey stack, .rightBrace => some (deliver (.obj []) stack)
  | firstKey stack, .text key => some (colon stack [] key)
  | nextKey stack fields, .text key => some (colon stack fields key)
  | colon stack fields key, .colon => some (due (.fields fields key :: stack))
  | afterItem stack reversed, .comma => some (due (.items reversed :: stack))
  | afterItem stack reversed, .rightBracket => some (deliver (.arr reversed.reverse) stack)
  | afterField stack fields, .comma => some (nextKey stack fields)
  | afterField stack fields, .rightBrace => some (deliver (.obj fields) stack)
  | _, _ => none

def finish : Build → Option Json
  | done value => some value
  | _ => none

end Build

def ofTokens? (tokens : List Token) : Option Json := do
  let build ← tokens.foldlM Build.step (.due [])
  build.finish

def parse? (text : String) : Option Json := do
  let tokens ← tokens? text.toList
  ofTokens? tokens

end NaturalDeduction.Json
