import Tollgate.Document.Problem
import Tollgate.Json.Tree

/-!
# JSON values

A value is what a faultless text denotes: labels are sorted by their bytes and a
label that stands twice keeps its last value. Values are written without blanks,
through the same tokens that texts are cut into.
-/

namespace Tollgate.Json

open Document (Node Elements Members Number Fault)

inductive Value where
  | null
  | boolean (b : Bool)
  | number (n : Number)
  | text (s : String)
  | list (items : List Value)
  | table (members : List (String × Value))

namespace Value

def ofNat (n : Nat) : Value :=
  .number (.integer (n : Int))

def ofInt (i : Int) : Value :=
  .number (.integer i)

def ofText? : Option String → Value
  | some s => .text s
  | none => .null

def ofTexts (items : List String) : Value :=
  .list (items.map .text)

def get? (v : Value) (label : String) : Option Value :=
  match v with
  | .table members => members.lookup label
  | _ => none

/-- Puts a member into sorted members, in place of one with its label. -/
def insertMember (label : String) (v : Value) : List (String × Value) → List (String × Value)
  | [] => [(label, v)]
  | (other, w) :: rest =>
    if label = other then (label, v) :: rest
    else if label < other then (label, v) :: (other, w) :: rest
    else (other, w) :: insertMember label v rest

-- ---------------------------------------------------------------------------
-- From trees and back

mutual
def ofNode? : Node → Except Fault Value
  | .null => .ok .null
  | .boolean b => .ok (.boolean b)
  | .number n => .ok (.number n)
  | .text s => .ok (.text s)
  | .list items => (ofElements? items).map .list
  | .table members => (ofMembers? members []).map .table
  | .spoiled => .error .malformed
  | .broken c => .error c.reading
def ofElements? : Elements → Except Fault (List Value)
  | .close => .ok []
  | .cut c => .error c.reading
  | .item head rest => do
    let v ← ofNode? head
    let vs ← ofElements? rest
    return v :: vs
def ofMembers? : Members → List (String × Value) → Except Fault (List (String × Value))
  | .close, sorted => .ok sorted
  | .cut c, _ => .error c.reading
  | .member (.plain label) value rest, sorted => do
    let v ← ofNode? value
    ofMembers? rest (insertMember label v sorted)
  | .member .spoiled _ _, _ => .error .malformed
  | .member (.broken c _) _ _, _ => .error c.readingLabel
end

def ofText (s : String) : Except Fault Value :=
  let reading := Reading.ofText s
  match ofNode? reading.root with
  | .error f => .error f
  | .ok v => if reading.trailing then .error .malformed else .ok v

mutual
def toNode : Value → Node
  | .null => .null
  | .boolean b => .boolean b
  | .number n => .number n
  | .text s => .text s
  | .list items => .list (toElements items)
  | .table members => .table (toMembers members)
def toElements : List Value → Elements
  | [] => .close
  | v :: vs => .item v.toNode (toElements vs)
def toMembers : List (String × Value) → Members
  | [] => .close
  | (label, v) :: rest => .member (.plain label) v.toNode (toMembers rest)
end

-- ---------------------------------------------------------------------------
-- Writing

mutual
def tokens : Value → List Token
  | .null => [.null]
  | .boolean b => [.boolean b]
  | .number n => [.number n]
  | .text s => [.text s]
  | .list [] => [.openList, .closeList]
  | .list (v :: vs) => .openList :: v.tokens ++ itemTokens vs ++ [.closeList]
  | .table [] => [.openTable, .closeTable]
  | .table ((label, v) :: rest) =>
    .openTable :: .text label :: .colon :: v.tokens ++ memberTokens rest ++ [.closeTable]
def itemTokens : List Value → List Token
  | [] => []
  | v :: vs => .comma :: v.tokens ++ itemTokens vs
def memberTokens : List (String × Value) → List Token
  | [] => []
  | (label, v) :: rest =>
    .comma :: .text label :: .colon :: v.tokens ++ memberTokens rest
end

/-- A character as it is written inside a text: quotes, backslashes and controls are
escaped. -/
def spellChar (c : Char) : List Char :=
  if c = '"' then ['\\', '"']
  else if c = '\\' then ['\\', '\\']
  else if c = '\x08' then ['\\', 'b']
  else if c = '\x0c' then ['\\', 'f']
  else if c = '\n' then ['\\', 'n']
  else if c = '\r' then ['\\', 'r']
  else if c = '\t' then ['\\', 't']
  else if c.toNat < 0x20 then
    ['\\', 'u', '0', '0', Nat.digitChar (c.toNat / 16), Nat.digitChar (c.toNat % 16)]
  else [c]

def spell : Token → List Char
  | .openTable => ['\x7b']
  | .closeTable => ['\x7d']
  | .openList => ['[']
  | .closeList => [']']
  | .colon => [':']
  | .comma => [',']
  | .null => ['n', 'u', 'l', 'l']
  | .boolean true => ['t', 'r', 'u', 'e']
  | .boolean false => ['f', 'a', 'l', 's', 'e']
  | .number (.integer i) => (Text.ofInt i).toList
  | .number (.float x) => (Document.jsonFloatText x).toList
  | .text s => '"' :: s.toList.flatMap spellChar ++ ['"']
  | .spoiledNumber => []
  | .spoiledText => []
  | .broken _ => []

def write (v : Value) : String :=
  String.ofList (v.tokens.flatMap spell)

end Value

end Tollgate.Json
