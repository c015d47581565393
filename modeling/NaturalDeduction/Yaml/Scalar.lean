import NaturalDeduction.Json.Basic
import NaturalDeduction.Text.Basic

/-! What plain scalars of YAML stand for: null, a truth value, an integer, a number with a point, or
else text. Underscores between digits do not count, and digits after colons have base sixty. -/
namespace NaturalDeduction.Yaml

def nulls : List String := ["", "~", "null", "Null", "NULL"]

def truths : List String :=
  ["yes", "Yes", "YES", "true", "True", "TRUE", "on", "On", "ON"]

def falsehoods : List String :=
  ["no", "No", "NO", "false", "False", "FALSE", "off", "Off", "OFF"]

def isOctal (c : Char) : Bool := '0' ≤ c && c ≤ '7'

def isSpaced (c : Char) : Bool := c.isDigit || c = '_'

def digits (base : Nat) (chars : List Char) : Nat :=
  Nat.ofDigitChars base (chars.filter (· ≠ '_')) 0

def hexDigits (chars : List Char) : Nat :=
  chars.foldl (fun sum c => sum * 16 + (Text.hexValue? c).getD 0) 0

def signed : List Char → Bool × List Char
  | '-' :: rest => (true, rest)
  | '+' :: rest => (false, rest)
  | chars => (false, chars)

/-- Go on with parts in base sixty: each has one digit, or two of which the first is below six. -/
def sixties? (sum : Nat) : List Char → Option (Nat × List Char)
  | ':' :: c :: d :: rest =>
      if '0' ≤ c ∧ c ≤ '5' ∧ d.isDigit then sixties? (sum * 60 + digits 10 [c, d]) rest
      else if c.isDigit then
        if d = ':' then sixties? (sum * 60 + digits 10 [c]) (d :: rest)
        else some (sum * 60 + digits 10 [c], d :: rest)
      else none
  | [':', c] => if c.isDigit then some (sum * 60 + digits 10 [c], []) else none
  | ':' :: _ => none
  | chars => some (sum, chars)

/-- An integer: decimal, octal after a zero, hexadecimal after `0x` or binary after `0b`. -/
def natural? : List Char → Option Nat
  | ['0'] => some 0
  | '0' :: 'b' :: rest =>
      if rest.any (· ≠ '_') ∧ rest.all (fun c => c = '0' || c = '1' || c = '_') then
        some (digits 2 rest)
      else none
  | '0' :: 'x' :: rest =>
      if rest.any (· ≠ '_') ∧ rest.all (fun c => (Text.hexValue? c).isSome || c = '_') then
        some (hexDigits (rest.filter (· ≠ '_')))
      else none
  | '0' :: rest => if rest.all (fun c => isOctal c || c = '_') then some (digits 8 rest) else none
  | c :: rest =>
      if c.isDigit then
        match sixties? (digits 10 (c :: rest.takeWhile isSpaced)) (rest.dropWhile isSpaced) with
        | some (value, []) => some value
        | _ => none
      else none
  | [] => none

def integer? (chars : List Char) : Option Int :=
  let (negative, unsigned) := signed chars
  (natural? unsigned).map fun value => if negative then -value else value

/-- An exponent, which must have a sign, or nothing. -/
def exponent? : List Char → Option Int
  | [] => some 0
  | e :: sign :: rest =>
      if (e = 'e' ∨ e = 'E') ∧ (sign = '-' ∨ sign = '+') ∧ rest ≠ [] ∧ rest.all Char.isDigit then
        some (if sign = '-' then -digits 10 rest else digits 10 rest)
      else none
  | _ => none

def fraction? (negative : Bool) (whole : Nat) (chars : List Char) : Option Double := do
  let (part, rest) := chars.span isSpaced
  let exponent ← exponent? rest
  let places := (part.filter (· ≠ '_')).length
  return .ofDecimal negative (whole * Nat.pow 10 places + digits 10 part) (exponent - places)

def unsignedReal? (negative : Bool) (chars : List Char) : Option Double :=
  match chars with
  | '.' :: rest =>
      if String.ofList rest ∈ ["inf", "Inf", "INF"] then some (.infinite negative) else none
  | c :: rest =>
      if c.isDigit then
        let whole := digits 10 (c :: rest.takeWhile isSpaced)
        match rest.dropWhile isSpaced with
        | '.' :: after => fraction? negative whole after
        | after =>
            match sixties? whole after with
            | some (whole, '.' :: after) =>
                if after.all isSpaced then fraction? negative whole after else none
            | _ => none
      else none
  | [] => none

def real? (chars : List Char) : Option Double :=
  match chars with
  | '.' :: c :: rest =>
      if String.ofList (c :: rest) ∈ ["nan", "NaN", "NAN"] then some .undefined
      else if c.isDigit then fraction? false 0 (c :: rest)
      else unsignedReal? false chars
  | chars =>
      let (negative, unsigned) := signed chars
      unsignedReal? negative unsigned

def resolve (text : String) : Json :=
  if text ∈ nulls then .null
  else if text ∈ truths then .bool true
  else if text ∈ falsehoods then .bool false
  else
    match real? text.toList, integer? text.toList with
    | some value, _ => .real value
    | none, some value => .int value
    | none, none => .str text

end NaturalDeduction.Yaml
