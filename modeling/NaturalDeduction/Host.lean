/-! The surroundings of a run: the paths of files, what is found at them, and the variables it can
see. Empty and single-dot segments of a path do not count, and the suffix of a file name starts at
its last dot, unless that dot stands first or last. Programs written for a host of any monad can be
followed without an operating system. -/
namespace NaturalDeduction

namespace Path

def splitAt (separator : Char) : List Char → List (List Char)
  | [] => [[]]
  | c :: rest =>
      match splitAt separator rest with
      | segment :: segments =>
          if c = separator then [] :: segment :: segments else (c :: segment) :: segments
      | [] => [[c]]

def segments (path : String) : List (List Char) :=
  (splitAt '/' path.toList).filter fun segment => segment ≠ [] ∧ segment ≠ ['.']

/-- The leading slashes that mark an absolute path; exactly two are kept. -/
def root (path : String) : List Char :=
  match path.toList with
  | '/' :: '/' :: '/' :: _ => ['/']
  | '/' :: '/' :: _ => ['/', '/']
  | '/' :: _ => ['/']
  | _ => []

def normal (path : String) : String :=
  match root path ++ List.intercalate ['/'] (segments path) with
  | [] => "."
  | chars => String.ofList chars

def name (path : String) : List Char := (segments path).getLast?.getD []

def suffix (path : String) : String :=
  match (name path).reverse.span (· ≠ '.') with
  | ([], _) => ""
  | (_, []) | (_, [_]) => ""
  | (reversed, dot :: _) => String.ofList (dot :: reversed.reverse)

end Path

inductive Opened where
  | text (contents : String)
  | missing
  | directory
  /-- Part of the path is a file, so that nothing can be below it. -/
  | belowFile
  deriving DecidableEq, Repr

/-- Files are asked for by normal path. -/
structure Host (m : Type → Type) where
  openFile : String → m Opened
  getVariable : String → m (Option String)

end NaturalDeduction
