import Tollgate.Toml.Scalar
import Tollgate.Toml.Table

/-!
# TOML files

A file is read line by line, and each line that says something goes to the builder
of the tables. The whole file is read before any of it is given a type, so a file
that is not well written gives nothing.
-/

namespace Tollgate.Toml

open Document (Node Elements Members)

def isBareKeyChar (c : Char) : Bool :=
  Text.isLetter c || Text.isDigit c || c == '_' || c == '-'

def keyPart (cs : List Char) : Option (String × List Char) :=
  match cs with
  | '"' :: _ => shortText cs
  | '\'' :: _ => shortText cs
  | cs =>
    match cs.takeWhile isBareKeyChar with
    | [] => none
    | k => some (String.ofList k, cs.dropWhile isBareKeyChar)

/-- The number of parts of a key, and of nested values, stays below this. -/
def nestingLimit : Nat := 80

def keyParts : Nat → List Char → Option ((List String) × List Char)
  | 0, _ => none
  | fuel + 1, cs => do
    let (part, rest) ← keyPart (skipBlanks cs)
    match skipBlanks rest with
    | '.' :: rest =>
      let (parts, rest) ← keyParts fuel rest
      return (part :: parts, rest)
    | rest => return ([part], rest)

def key (cs : List Char) : Option ((List String × String) × List Char) := do
  let (parts, rest) ← keyParts (nestingLimit - 1) cs
  let last ← parts.getLast?
  return ((parts.dropLast, last), rest)

/-- Skips a comment, if one starts here. It may hold no control but the tab. -/
def skipComment : List Char → Option (List Char)
  | '#' :: rest =>
    let comment := rest.takeWhile fun c => c != '\n' && c != '\r'
    if comment.all isTextChar then some (rest.drop comment.length) else none
  | cs => some cs

def skipGap : Nat → List Char → Option (List Char)
  | 0, _ => none
  | fuel + 1, cs => do
    let cs ← skipComment (skipBlanks cs)
    match lineEnd? cs with
    | some rest => skipGap fuel rest
    | none => some cs

mutual
def value : Nat → Nat → List Char → Option (Node × List Char)
  | 0, _, _ => none
  | fuel + 1, room, cs =>
    match cs with
    | '"' :: _ => (text cs).map fun (s, rest) => (.text s, rest)
    | '\'' :: _ => (text cs).map fun (s, rest) => (.text s, rest)
    | '[' :: rest =>
      match room with
      | 0 => none
      | room + 1 => (elements fuel room rest).map fun (items, rest) => (.list items, rest)
    | '\x7b' :: rest =>
      match room with
      | 0 => none
      | room + 1 =>
        match skipBlanks rest with
        | '\x7d' :: rest => some (.table .close, rest)
        | rest => (members fuel room .empty rest).map fun (t, rest) => (t.toNode, rest)
    | cs =>
      let (w, rest) := word cs
      (wordNode? w).map fun n => (n, rest)
def elements : Nat → Nat → List Char → Option (Elements × List Char)
  | 0, _, _ => none
  | fuel + 1, room, cs => do
    let cs ← skipGap (cs.length + 1) cs
    match cs with
    | ']' :: rest => return (.close, rest)
    | cs =>
      let (n, cs) ← value fuel room cs
      let cs ← skipGap (cs.length + 1) cs
      match cs with
      | ',' :: rest =>
        let (items, rest) ← elements fuel room rest
        return (.item n items, rest)
      | ']' :: rest => return (.item n .close, rest)
      | _ => none
def members : Nat → Nat → Table → List Char → Option (Table × List Char)
  | 0, _, _, _ => none
  | fuel + 1, room, t, cs => do
    let ((path, last), cs) ← key cs
    let cs ← char '=' (skipBlanks cs)
    let (n, cs) ← value fuel room (skipBlanks cs)
    let t ← t.insertAt path last n
    match skipBlanks cs with
    | ',' :: rest => members fuel room t rest
    | '\x7d' :: rest => return (t, rest)
    | _ => none
end

/-- Reads the end of a line: blanks, a comment, and a line end or the end of the file. -/
def endOfLine (cs : List Char) : Option (List Char) := do
  let cs ← skipComment (skipBlanks cs)
  match cs with
  | [] => some []
  | cs => lineEnd? cs

def lineContent (cs : List Char) : Option ((Option Line) × List Char) :=
  match cs with
  | [] => some (none, [])
  | '#' :: _ => some (none, cs)
  | '\n' :: _ => some (none, cs)
  | '\r' :: _ => some (none, cs)
  | '[' :: '[' :: rest => do
    let ((path, last), rest) ← key rest
    let rest ← char ']' (skipBlanks rest)
    let rest ← char ']' rest
    return (some (.listHeader path last), rest)
  | '[' :: rest => do
    let ((path, last), rest) ← key rest
    let rest ← char ']' (skipBlanks rest)
    return (some (.header path last), rest)
  | cs => do
    let ((path, last), rest) ← key cs
    let rest ← char '=' (skipBlanks rest)
    let rest := skipBlanks rest
    let (n, rest) ← value (2 * rest.length + 2) (nestingLimit - 1) rest
    return (some (.entry path last n), rest)

def lines : Nat → Builder → List Char → Option Builder
  | 0, _, _ => none
  | fuel + 1, b, cs => do
    let (content, rest) ← lineContent (skipBlanks cs)
    let b ← match content with
      | some l => b.line l
      | none => some b
    match rest with
    | [] => return b
    | rest =>
      let rest ← endOfLine rest
      match rest with
      | [] => return b
      | rest => lines fuel b rest

def skipMark : List Char → List Char
  | '\uFEFF' :: rest => rest
  | cs => cs

def ofText? (s : String) : Option Node := do
  let cs := skipMark s.toList
  let b ← lines (cs.length + 1) .start cs
  b.finish

end Tollgate.Toml
