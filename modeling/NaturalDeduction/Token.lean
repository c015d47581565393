import NaturalDeduction.Operator
import NaturalDeduction.Text.Basic

/-! Tokens of formula text. A token keeps the spelling it was read from, so that an error can
name it. Blanks are space, tab, carriage return and line feed, and letters are ASCII. -/
namespace NaturalDeduction

namespace Token

inductive Kind where
  | openParen
  | closeParen
  | negation
  | connective (c : Connective)
  | letter
  deriving DecidableEq, Repr

end Token

structure Token where
  kind : Token.Kind
  lexeme : String
  deriving DecidableEq, Repr

namespace Token

inductive Error where
  | equalsAlone
  | lessAlone
  | unexpected (c : Char)
  deriving DecidableEq, Repr

def Error.message : Error → String
  | equalsAlone => "Expected '>' after '='"
  | lessAlone => "Expected '=>' after '<'"
  | unexpected c => "Unexpected character " ++ String.singleton c

def Kind.ofChar? (c : Char) : Option Kind :=
  match c with
  | '(' => some openParen
  | ')' => some closeParen
  | '-' | '!' | '~' | '¬' => some negation
  | '&' | 'Λ' => some (connective .conjunction)
  | '∨' | '|' => some (connective .disjunction)
  | '→' => some (connective .conditional)
  | '↔' => some (connective .biconditional)
  | c => if c.isAlpha then some letter else none

def scan : List Char → Except Error (List Token)
  | [] => .ok []
  | '=' :: '>' :: rest => (scan rest).map (⟨.connective .conditional, "=>"⟩ :: ·)
  | '=' :: _ => .error .equalsAlone
  | '<' :: '=' :: '>' :: rest => (scan rest).map (⟨.connective .biconditional, "<=>"⟩ :: ·)
  | '<' :: _ => .error .lessAlone
  | c :: rest =>
      if Text.isBlank c then scan rest
      else
        match Kind.ofChar? c with
        | some kind => (scan rest).map (⟨kind, String.singleton c⟩ :: ·)
        | none => .error (.unexpected c)

def ofText (text : String) : Except Error (List Token) := scan text.toList

end Token
end NaturalDeduction
