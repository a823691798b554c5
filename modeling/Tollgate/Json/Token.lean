import Tollgate.Json.Number
import Tollgate.Text.Pieces

/-!
# The words of a JSON text

A text is first cut into tokens. Cutting never fails: a place that no token can
get past becomes a last token that says why, and a text or number that can be
skimmed but not read becomes a spoiled token.
-/

namespace Tollgate.Json

open Document (Number Fault Cut)

inductive Token where
  | openTable
  | closeTable
  | openList
  | closeList
  | colon
  | comma
  | null
  | boolean (b : Bool)
  | number (n : Number)
  | text (s : String)
  | spoiledNumber
  | spoiledText
  | broken (cut : Cut)

/-- The outcome of cutting one token: what it is and the characters after it. -/
structure Lexed where
  token : Token
  rest : List Char

def stopAt (c : Cut) : Lexed :=
  ⟨.broken c, []⟩

def isSpace (c : Char) : Bool :=
  c == ' ' || c == '\t' || c == '\n' || c == '\r'

-- ---------------------------------------------------------------------------
-- Texts

def escaped? : Char → Option Char
  | '"' => some '"'
  | '\\' => some '\\'
  | '/' => some '/'
  | 'b' => some '\x08'
  | 'f' => some '\x0c'
  | 'n' => some '\n'
  | 'r' => some '\r'
  | 't' => some '\t'
  | _ => none

def isHighSurrogate (n : Nat) : Bool := 0xD800 ≤ n && n ≤ 0xDBFF

def isLowSurrogate (n : Nat) : Bool := 0xDC00 ≤ n && n ≤ 0xDFFF

def ofSurrogates (high low : Nat) : Char :=
  Char.ofNat (0x10000 + (high - 0xD800) * 0x400 + (low - 0xDC00))

/-- What is known of a text up to some place inside it. -/
structure Partial where
  /-- The characters so far, last first. -/
  chars : List Char
  /-- A high surrogate that waits for its other half. -/
  pending : Option Nat
  /-- A surrogate was left alone: the text can only be skimmed. -/
  spoiled : Bool

/-- The text goes on with a character; a surrogate that waits is left alone. -/
def Partial.push (p : Partial) (c : Char) : Partial :=
  ⟨c :: p.chars, none, p.spoiled || p.pending.isSome⟩

def Partial.pushUnit (p : Partial) (n : Nat) : Partial :=
  match p.pending with
  | some high =>
    if isLowSurrogate n then ⟨ofSurrogates high n :: p.chars, none, p.spoiled⟩
    else ⟨p.chars, none, true⟩
  | none =>
    if isHighSurrogate n then ⟨p.chars, some n, p.spoiled⟩
    else if isLowSurrogate n then ⟨p.chars, none, true⟩
    else ⟨Char.ofNat n :: p.chars, none, p.spoiled⟩

def Partial.close (p : Partial) : Token :=
  if p.spoiled || p.pending.isSome then .spoiledText else .text (String.ofList p.chars.reverse)

/-- The text ends in a fault; reading may have failed before. -/
def Partial.fail (p : Partial) (f : Fault) : Lexed :=
  stopAt { reading := if p.spoiled then .malformed else f, skimming := f }

def byteCount (cs : List Char) : Nat :=
  cs.foldl (fun n c => n + c.utf8Size) 0

def lexText (p : Partial) : List Char → Lexed
  | [] => p.fail .ended
  | '"' :: rest => ⟨p.close, rest⟩
  | '\\' :: 'u' :: a :: b :: c :: d :: rest =>
    match Text.hexadecimal? [a, b, c, d] with
    | some n => lexText (p.pushUnit n) rest
    | none => p.fail .malformed
  | '\\' :: 'u' :: rest => p.fail (if byteCount rest < 4 then .ended else .malformed)
  | ['\\'] => p.fail .ended
  | '\\' :: e :: rest =>
    match escaped? e with
    | some c => lexText (p.push c) rest
    | none => p.fail .malformed
  | c :: rest => if c.toNat < 0x20 then p.fail .malformed else lexText (p.push c) rest

-- ---------------------------------------------------------------------------
-- Numbers and words

/-- The fault of a number that lacks a digit before the given characters. -/
def lackingDigit (rest : List Char) : Lexed :=
  stopAt { reading := if rest.isEmpty then .ended else .malformed, skimming := .malformed,
           bare := true }

def Spelling.token (s : Spelling) : Token :=
  match s.number? with
  | some n => .number n
  | none => .spoiledNumber

def lexExponent (negative : Bool) (whole : List Char) (fraction : Option (List Char))
    (cs : List Char) : Lexed :=
  match cs with
  | c :: r =>
    if c == 'e' || c == 'E' then
      let (down, r) : Bool × List Char := match r with
        | '+' :: r => (false, r)
        | '-' :: r => (true, r)
        | r => (false, r)
      match r.takeWhile Text.isDigit with
      | [] => lackingDigit r
      | ds => ⟨Spelling.token ⟨negative, whole, fraction, some (down, ds)⟩,
          r.dropWhile Text.isDigit⟩
    else ⟨Spelling.token ⟨negative, whole, fraction, none⟩, cs⟩
  | [] => ⟨Spelling.token ⟨negative, whole, fraction, none⟩, cs⟩

def lexFraction (negative : Bool) (whole : List Char) (cs : List Char) : Lexed :=
  match cs with
  | '.' :: r =>
    match r.takeWhile Text.isDigit with
    | [] => lackingDigit r
    | ds => lexExponent negative whole (some ds) (r.dropWhile Text.isDigit)
  | cs => lexExponent negative whole none cs

def lexNumber (negative : Bool) (cs : List Char) : Lexed :=
  match cs.takeWhile Text.isDigit with
  | [] => lackingDigit cs
  | '0' :: _ :: _ => stopAt { reading := .malformed, skimming := .malformed, bare := true }
  | ds => lexFraction negative ds (cs.dropWhile Text.isDigit)

def lexWord (token : Token) : List Char → List Char → Lexed
  | [], rest => ⟨token, rest⟩
  | _ :: _, [] => stopAt { reading := .ended, skimming := .ended, bare := true }
  | w :: word, c :: rest =>
    if w == c then lexWord token word rest
    else stopAt { reading := .malformed, skimming := .malformed, bare := true }

-- ---------------------------------------------------------------------------
-- All tokens

def lexOne (c : Char) (rest : List Char) : Lexed :=
  match c with
  | '\x7b' => ⟨.openTable, rest⟩
  | '\x7d' => ⟨.closeTable, rest⟩
  | '[' => ⟨.openList, rest⟩
  | ']' => ⟨.closeList, rest⟩
  | ':' => ⟨.colon, rest⟩
  | ',' => ⟨.comma, rest⟩
  | '"' => lexText ⟨[], none, false⟩ rest
  | 'n' => lexWord .null ['u', 'l', 'l'] rest
  | 't' => lexWord (.boolean true) ['r', 'u', 'e'] rest
  | 'f' => lexWord (.boolean false) ['a', 'l', 's', 'e'] rest
  | '-' => lexNumber true rest
  | c => if Text.isDigit c then lexNumber false (c :: rest) else stopAt (.both .malformed)

def lexAll : Nat → List Char → List Token
  | 0, _ => []
  | fuel + 1, cs =>
    match cs.dropWhile isSpace with
    | [] => []
    | c :: rest =>
      let one := lexOne c rest
      one.token :: lexAll fuel one.rest

/-- The tokens of a text. Every token takes a character, so none is left out. -/
def tokens (cs : List Char) : List Token :=
  lexAll cs.length cs

end Tollgate.Json
