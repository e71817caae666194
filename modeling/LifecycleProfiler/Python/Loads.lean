import LifecycleProfiler.Python.Json
import LifecycleProfiler.Python.Mapping

/-! # Reading JSON

`json.loads(text)` on the UTF-8 bytes of a text, as the scanner of the standard
library reads it: white space between tokens, strict strings, numbers by the
longest match, and objects whose repeated keys keep the last value. What raises
`JSONDecodeError` reads as `none`, and so do the three constants that are no
JSON and a lone surrogate, which no text here can hold. -/

namespace LifecycleProfiler.Python.Json

/-- `float(text)` of a number with a fraction or an exponent, with its `repr`.
`none` stands for an infinity. -/
abbrev ReadFloat := Bytes → Option (Rat × String)

/-- One character of `WHITESPACE`. -/
def isSpace (b : UInt8) : Bool := b = 32 || b = 9 || b = 10 || b = 13

def skipSpace (bs : Bytes) : Bytes := bs.dropWhile isSpace

/-! ## Strings -/

def hexValue (b : UInt8) : Option Nat :=
  if 48 ≤ b && b ≤ 57 then some (b.toNat - 48)
  else if 97 ≤ b && b ≤ 102 then some (b.toNat - 87)
  else if 65 ≤ b && b ≤ 70 then some (b.toNat - 55)
  else none

/-- Four hexadecimal digits. -/
def hexCode (a b c d : UInt8) : Option Nat := do
  let a ← hexValue a
  let b ← hexValue b
  let c ← hexValue c
  let d ← hexValue d
  return ((a * 16 + b) * 16 + c) * 16 + d

/-- `BACKSLASH` -/
def escaped (b : UInt8) : Option UInt8 :=
  if b = 34 || b = 92 || b = 47 then some b
  else if b = 98 then some 8
  else if b = 102 then some 12
  else if b = 110 then some 10
  else if b = 114 then some 13
  else if b = 116 then some 9
  else none

/-- `scanstring`, from behind the opening quote: the bytes of the text, and code
units where an escape gives one, with what follows the closing quote. -/
def scanUnits : Bytes → Option (List (UInt8 ⊕ Nat) × Bytes)
  | [] => none
  | 34 :: rest => some ([], rest)
  | 92 :: 117 :: a :: b :: c :: d :: rest => do
    let code ← hexCode a b c d
    let (units, rest) ← scanUnits rest
    return (.inr code :: units, rest)
  | 92 :: e :: rest => do
    let b ← escaped e
    let (units, rest) ← scanUnits rest
    return (.inl b :: units, rest)
  | b :: rest =>
    if b < 32 then none
    else do
      let (units, rest) ← scanUnits rest
      return (.inl b :: units, rest)

def isHigh (code : Nat) : Bool := 0xd800 ≤ code && code ≤ 0xdbff
def isLow (code : Nat) : Bool := 0xdc00 ≤ code && code ≤ 0xdfff

/-- The character of a pair of surrogates. -/
def pairBytes (high low : Nat) : Bytes :=
  utf8 (Char.ofNat (0x10000 + (high - 0xd800) * 0x400 + (low - 0xdc00))).toString

def codeBytes (code : Nat) : Option Bytes :=
  if isHigh code || isLow code then none else some (utf8 (Char.ofNat code).toString)

/-- The bytes of the units: two surrogates that follow each other are one
character. -/
def joinUnits : List (UInt8 ⊕ Nat) → Option Bytes
  | [] => some []
  | .inl b :: rest => (joinUnits rest).map (b :: ·)
  | .inr code :: .inr low :: rest =>
    if isHigh code && isLow low then (joinUnits rest).map (pairBytes code low ++ ·)
    else do return (← codeBytes code) ++ (← joinUnits (.inr low :: rest))
  | .inr code :: rest => do return (← codeBytes code) ++ (← joinUnits rest)

/-- `bs.decode("utf-8")` -/
def decodeUtf8 (bs : Bytes) : Option String := String.fromUTF8? ⟨bs.toArray⟩

def scanString (bs : Bytes) : Option (String × Bytes) := do
  let (units, rest) ← scanUnits bs
  let raw ← joinUnits units
  let s ← decodeUtf8 raw
  return (s, rest)

/-! ## Numbers -/

def isDigit (b : UInt8) : Bool := 48 ≤ b && b ≤ 57

/-- The integer part behind the sign. -/
def scanInt : Bytes → Option (Bytes × Bytes)
  | 48 :: rest => some ([48], rest)
  | bs => if (bs.takeWhile isDigit).isEmpty then none
    else some (bs.takeWhile isDigit, bs.dropWhile isDigit)

/-- A point and digits, or nothing. -/
def scanFraction : Bytes → Bytes × Bytes
  | 46 :: rest =>
    if (rest.takeWhile isDigit).isEmpty then ([], 46 :: rest)
    else (46 :: rest.takeWhile isDigit, rest.dropWhile isDigit)
  | bs => ([], bs)

def scanSign : Bytes → Bytes × Bytes
  | 43 :: rest => ([43], rest)
  | 45 :: rest => ([45], rest)
  | bs => ([], bs)

/-- An exponent, or nothing. -/
def scanExponent : Bytes → Bytes × Bytes
  | e :: rest =>
    if e = 101 || e = 69 then
      let (sign, digits) := scanSign rest
      if (digits.takeWhile isDigit).isEmpty then ([], e :: rest)
      else (e :: sign ++ digits.takeWhile isDigit, digits.dropWhile isDigit)
    else ([], e :: rest)
  | [] => ([], [])

/-- `int(digits)` -/
def readNat (digits : Bytes) : Nat :=
  Nat.ofDigitChars 10 (digits.map fun b => Char.ofNat b.toNat) 0

def scanMinus : Bytes → Bool × Bytes
  | 45 :: rest => (true, rest)
  | bs => (false, bs)

/-- The minus sign of a number. -/
def minusOf (minus : Bool) : Bytes := if minus then [45] else []

/-- `NUMBER_RE`, and the number its groups stand for. -/
def scanNumber (readFloat : ReadFloat) (bs : Bytes) : Option (Value × Bytes) := do
  let (minus, rest) := scanMinus bs
  let (digits, rest) ← scanInt rest
  let (fraction, rest) := scanFraction rest
  let (exponent, rest) := scanExponent rest
  if fraction.isEmpty && exponent.isEmpty then
    return (.int (if minus then -(readNat digits) else readNat digits), rest)
  else do
    let (q, repr) ← readFloat (minusOf minus ++ digits ++ fraction ++ exponent)
    return (.float q repr, rest)

/-! ## Values -/

mutual
/-- `scan_once` -/
def scanOnce (readFloat : ReadFloat) : Nat → Bytes → Option (Value × Bytes)
  | 0, _ => none
  | fuel + 1, bs =>
    match bs with
    | 34 :: rest => (scanString rest).map fun (s, rest) => (.str s, rest)
    | 123 :: rest =>
      match skipSpace rest with
      | 125 :: rest => some (.dict [], rest)
      | 34 :: rest => (scanMembers readFloat fuel rest).map fun (members, rest) =>
        (.dict (members.foldl (fun d kv => Mapping.set d kv.1 kv.2) []), rest)
      | _ => none
    | 91 :: rest =>
      match skipSpace rest with
      | 93 :: rest => some (.list [], rest)
      | rest => (scanItems readFloat fuel rest).map fun (items, rest) => (.list items, rest)
    | 110 :: 117 :: 108 :: 108 :: rest => some (.none, rest)
    | 116 :: 114 :: 117 :: 101 :: rest => some (.bool true, rest)
    | 102 :: 97 :: 108 :: 115 :: 101 :: rest => some (.bool false, rest)
    | bs => scanNumber readFloat bs

/-- The members of `JSONObject`, from behind the quote of the first key. -/
def scanMembers (readFloat : ReadFloat) : Nat → Bytes → Option (List (String × Value) × Bytes)
  | 0, _ => none
  | fuel + 1, bs => do
    let (key, rest) ← scanString bs
    match skipSpace rest with
    | 58 :: rest => do
      let (value, rest) ← scanOnce readFloat fuel (skipSpace rest)
      match skipSpace rest with
      | 125 :: rest => some ([(key, value)], rest)
      | 44 :: rest =>
        match skipSpace rest with
        | 34 :: rest => (scanMembers readFloat fuel rest).map fun (members, rest) =>
          ((key, value) :: members, rest)
        | _ => none
      | _ => none
    | _ => none

/-- The items of `JSONArray`. -/
def scanItems (readFloat : ReadFloat) : Nat → Bytes → Option (List Value × Bytes)
  | 0, _ => none
  | fuel + 1, bs => do
    let (value, rest) ← scanOnce readFloat fuel bs
    match skipSpace rest with
    | 93 :: rest => some ([value], rest)
    | 44 :: rest => (scanItems readFloat fuel (skipSpace rest)).map fun (items, rest) =>
      (value :: items, rest)
    | _ => none
end

/-- `json.loads(text)` -/
def loads (readFloat : ReadFloat) (bs : Bytes) : Option Value := do
  let (value, rest) ← scanOnce readFloat bs.length (skipSpace bs)
  if (skipSpace rest).isEmpty then some value else none

/-- `for line in file`, behind the part of a line that has been read: in text
mode a line ends at `\n`, `\r` or `\r\n`. -/
def linesFrom (line : Bytes) : Bytes → List Bytes
  | [] => if line.isEmpty then [] else [line]
  | 13 :: 10 :: rest => (line ++ [10]) :: linesFrom [] rest
  | b :: rest =>
    if b = 10 || b = 13 then (line ++ [10]) :: linesFrom [] rest else linesFrom (line ++ [b]) rest

/-- `for line in file` -/
def linesOf (file : Bytes) : List Bytes := linesFrom [] file

example : (loads (fun _ => none) (utf8
    " \x7b\"b\": [1, -20, \"x\\n\\u00e9\"], \"a\": null, \"b\": true\x7d\n")).any
    (Value.pyEq (.dict [("b", .bool true), ("a", .none)])) = true := by decide +kernel

end LifecycleProfiler.Python.Json
