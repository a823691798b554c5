import Tollgate.Document.Node
import Tollgate.Text.Ascii
import Tollgate.Text.Pieces
import Tollgate.Time.Date

/-!
# TOML scalars

Texts in four kinds of quotes, numbers in four bases, floats, booleans and times.
Everything that is not written exactly as it must be gives no value.
-/

namespace Tollgate.Toml

open Document (Node Number)
open Text (isDigit digitValue hexValue? decimal)

def isBlankChar (c : Char) : Bool :=
  c == ' ' || c == '\t'

def skipBlanks (cs : List Char) : List Char :=
  cs.dropWhile isBlankChar

def isTextChar (c : Char) : Bool :=
  c == '\t' || (0x20 ≤ c.toNat && c.toNat != 0x7F)

-- ---------------------------------------------------------------------------
-- Texts

def charOfDigits (cs : List Char) : Option Char := do
  let n ← Text.hexadecimal? cs
  if n < 0xD800 ∨ (0xDFFF < n ∧ n < 0x110000) then some (Char.ofNat n) else none

def shortEscape? : Char → Option Char
  | 'b' => some '\x08'
  | 't' => some '\t'
  | 'n' => some '\n'
  | 'f' => some '\x0c'
  | 'r' => some '\r'
  | '"' => some '"'
  | '\\' => some '\\'
  | _ => none

def escape : List Char → Option (Char × List Char)
  | 'u' :: rest =>
    if 4 ≤ rest.length then (charOfDigits (rest.take 4)).map fun c => (c, rest.drop 4) else none
  | 'U' :: rest =>
    if 8 ≤ rest.length then (charOfDigits (rest.take 8)).map fun c => (c, rest.drop 8) else none
  | c :: rest => (shortEscape? c).map fun d => (d, rest)
  | [] => none

def basicText : Nat → List Char → List Char → Option (String × List Char)
  | 0, _, _ => none
  | fuel + 1, done, cs =>
    match cs with
    | [] => none
    | '"' :: rest => some (String.ofList done.reverse, rest)
    | '\\' :: rest => do
      let (c, rest) ← escape rest
      basicText fuel (c :: done) rest
    | c :: rest => if isTextChar c then basicText fuel (c :: done) rest else none

def literalText (done : List Char) : List Char → Option (String × List Char)
  | [] => none
  | c :: rest =>
    if c == '\'' then some (String.ofList done.reverse, rest)
    else if isTextChar c then literalText (c :: done) rest
    else none

def lineEnd? : List Char → Option (List Char)
  | '\n' :: rest => some rest
  | '\r' :: '\n' :: rest => some rest
  | _ => none

def skipFirstLineEnd (cs : List Char) : List Char :=
  (lineEnd? cs).getD cs

def skipBlankLines : Nat → List Char → List Char
  | 0, cs => cs
  | fuel + 1, cs =>
    match cs with
    | ' ' :: rest => skipBlankLines fuel rest
    | '\t' :: rest => skipBlankLines fuel rest
    | cs =>
      match lineEnd? cs with
      | some rest => skipBlankLines fuel rest
      | none => cs

/-- The end of a text in triple quotes: three to five quotes, of which all but the
last three belong to the text. -/
def tripleEnd (quote : Char) (done cs : List Char) : Option (String × List Char) :=
  let quotes := (cs.takeWhile (· == quote)).length
  if 3 ≤ quotes ∧ quotes ≤ 5 then
    some (String.ofList (done.reverse ++ List.replicate (quotes - 3) quote), cs.drop quotes)
  else none

def longBasicText : Nat → List Char → List Char → Option (String × List Char)
  | 0, _, _ => none
  | fuel + 1, done, cs =>
    match cs with
    | [] => none
    | '"' :: rest =>
      if rest.take 2 == ['"', '"'] then tripleEnd '"' done cs
      else longBasicText fuel ('"' :: done) rest
    | '\\' :: rest =>
      match lineEnd? (skipBlanks rest) with
      | some rest => longBasicText fuel done (skipBlankLines rest.length rest)
      | none => do
        let (c, rest) ← escape rest
        longBasicText fuel (c :: done) rest
    | c :: rest =>
      match lineEnd? cs with
      | some rest => longBasicText fuel ('\n' :: done) rest
      | none => if isTextChar c then longBasicText fuel (c :: done) rest else none

def longLiteralText : Nat → List Char → List Char → Option (String × List Char)
  | 0, _, _ => none
  | fuel + 1, done, cs =>
    match cs with
    | [] => none
    | '\'' :: rest =>
      if rest.take 2 == ['\'', '\''] then tripleEnd '\'' done cs
      else longLiteralText fuel ('\'' :: done) rest
    | c :: rest =>
      match lineEnd? cs with
      | some rest => longLiteralText fuel ('\n' :: done) rest
      | none => if isTextChar c then longLiteralText fuel (c :: done) rest else none

def shortText : List Char → Option (String × List Char)
  | '"' :: rest => basicText (rest.length + 1) [] rest
  | '\'' :: rest => literalText [] rest
  | _ => none

def text (cs : List Char) : Option (String × List Char) :=
  match cs with
  | '"' :: '"' :: '"' :: rest =>
    let rest := skipFirstLineEnd rest
    longBasicText (rest.length + 1) [] rest
  | '\'' :: '\'' :: '\'' :: rest =>
    let rest := skipFirstLineEnd rest
    longLiteralText (rest.length + 1) [] rest
  | cs => shortText cs

-- ---------------------------------------------------------------------------
-- Numbers

/-- The digits of a number in which single underscores may stand between digits. -/
def digitsOf (isBaseDigit : Char → Bool) (cs : List Char) : Option (List Char) :=
  let groups := Text.pieces (· == '_') cs
  if groups.all fun g => !g.isEmpty && g.all isBaseDigit then some groups.flatten else none

def inBase (base : Nat) (cs : List Char) : Option Nat := do
  let isBaseDigit (c : Char) : Bool := match hexValue? c with
    | some d => d < base
    | none => false
  let ds ← digitsOf isBaseDigit cs
  return Text.ofDigits base (ds.filterMap hexValue?)

def wholeDigits (cs : List Char) : Option (List Char) := do
  let ds ← digitsOf isDigit cs
  match ds with
  | '0' :: _ :: _ => none
  | ds => some ds

def signed : List Char → Bool × List Char
  | '-' :: cs => (true, cs)
  | '+' :: cs => (false, cs)
  | cs => (false, cs)

def integer? (cs : List Char) : Option Int := do
  let n : Int ← match cs with
    | '0' :: 'x' :: ds => (inBase 16 ds).map Int.ofNat
    | '0' :: 'o' :: ds => (inBase 8 ds).map Int.ofNat
    | '0' :: 'b' :: ds => (inBase 2 ds).map Int.ofNat
    | cs =>
      let (negative, ds) := signed cs
      (wholeDigits ds).map fun ds =>
        if negative then -(decimal ds : Int) else (decimal ds : Int)
  if Int64.minValue.toInt ≤ n ∧ n ≤ Int64.maxValue.toInt then some n else none

def floatOf (digits : List Char) (exponent : Int) : Option Float :=
  let n := decimal digits
  let place := (digits.dropWhile (· == '0')).length + exponent
  if n = 0 then some 0.0
  else if 310 < place then none
  else if place < -330 then some 0.0
  else
    let x := if exponent < 0 then Float.ofScientific n true exponent.natAbs
      else Float.ofScientific n false exponent.natAbs
    if x.isInf then none else some x

/-- A float with a fraction, an exponent, or both. A negative one that is too large
is infinite, a positive one is none. -/
def float? (cs : List Char) : Option Float := do
  let (negative, cs) := signed cs
  if cs == ['i', 'n', 'f'] then return (if negative then -(1.0 / 0.0) else 1.0 / 0.0)
  if cs == ['n', 'a', 'n'] then return 0.0 / 0.0
  let (mantissa, exponent) := match Text.cutAtFirst (fun c => c == 'e' || c == 'E') cs with
    | some (m, e) => (m, some e)
    | none => (cs, none)
  let (whole, fraction) := match Text.cutAtFirst (· == '.') mantissa with
    | some (w, f) => (w, some f)
    | none => (mantissa, none)
  if exponent.isNone && fraction.isNone then none
  else do
    let whole ← wholeDigits whole
    let fraction ← match fraction with
      | some f => digitsOf isDigit f
      | none => some []
    let exponent : Int ← match exponent with
      | some e =>
        let (down, ds) := signed e
        (digitsOf isDigit ds).map fun ds =>
          if down then -(decimal ds : Int) else (decimal ds : Int)
      | none => some 0
    match floatOf (whole ++ fraction) (exponent - fraction.length) with
    | some x => some (if negative then -x else x)
    | none => if negative then some (-(1.0 / 0.0)) else none

-- ---------------------------------------------------------------------------
-- Times

def fixed (width : Nat) (cs : List Char) : Option (Nat × List Char) :=
  let ds := cs.take width
  if ds.length = width ∧ ds.all isDigit then some (decimal ds, cs.drop width) else none

def char (c : Char) : List Char → Option (List Char)
  | [] => none
  | d :: rest => if c == d then some rest else none

def date (cs : List Char) : Option (List Char) := do
  let (year, cs) ← fixed 4 cs
  let cs ← char '-' cs
  let (month, cs) ← fixed 2 cs
  let cs ← char '-' cs
  let (day, cs) ← fixed 2 cs
  if 1 ≤ month ∧ month ≤ 12 ∧ 1 ≤ day ∧ day ≤ Time.daysInMonth year month then some cs else none

def secondFraction : List Char → Option (List Char)
  | '.' :: rest => if (rest.takeWhile isDigit).isEmpty then none else some (rest.dropWhile isDigit)
  | cs => some cs

def clock (cs : List Char) : Option (List Char) := do
  let (hour, cs) ← fixed 2 cs
  let cs ← char ':' cs
  let (minute, cs) ← fixed 2 cs
  let cs ← char ':' cs
  let (second, cs) ← fixed 2 cs
  if hour < 24 ∧ minute < 60 ∧ second ≤ 60 then secondFraction cs else none

def zone : List Char → Option (List Char)
  | 'Z' :: rest => some rest
  | 'z' :: rest => some rest
  | c :: rest =>
    if c == '+' || c == '-' then do
      let (hour, rest) ← fixed 2 rest
      let rest ← char ':' rest
      let (minute, rest) ← fixed 2 rest
      if hour < 24 ∧ minute < 60 then some rest else none
    else some (c :: rest)
  | [] => some []

def isMoment (cs : List Char) : Bool :=
  match date cs with
  | some [] => true
  | some (c :: rest) =>
    if c == 'T' || c == 't' || c == ' ' then
      match clock rest with
      | some rest => zone rest == some []
      | none => false
    else false
  | none => clock cs == some []

/-- A moment in the tree: a table with one member that no reader asks for. -/
def momentNode (cs : List Char) : Node :=
  .table (.ofList [("$__toml_private_datetime", .text (String.ofList cs))])

-- ---------------------------------------------------------------------------
-- Bare words

def isDelimiter (c : Char) : Bool :=
  isBlankChar c || c == '\n' || c == '\r' || c == ',' || c == ']' || c == '\x7d' || c == '#'

/-- A bare word; a date takes a time behind one space with it. -/
def word (cs : List Char) : List Char × List Char :=
  let w := cs.takeWhile (!isDelimiter ·)
  let rest := cs.drop w.length
  match rest with
  | ' ' :: more =>
    let next := more.takeWhile (!isDelimiter ·)
    if date w == some [] && (clock next).isSome then
      (w ++ ' ' :: next, more.drop next.length)
    else (w, rest)
  | _ => (w, rest)

def wordNode? (w : List Char) : Option Node :=
  if w == ['t', 'r', 'u', 'e'] then some (.boolean true)
  else if w == ['f', 'a', 'l', 's', 'e'] then some (.boolean false)
  else if isMoment w then some (momentNode w)
  else
    match integer? w with
    | some i => some (.number (.integer i))
    | none => (float? w).map fun x => .number (.float x)

end Tollgate.Toml
