import LifecycleProfiler.Python.Value

/-! # Compact JSON with sorted keys

`json.dumps(value, allow_nan=False, ensure_ascii=False, separators=(",", ":"),
sort_keys=True).encode("utf-8")`: text is escaped only where JSON requires it,
which concerns ASCII characters alone, keys come in code point order, and an
object without an encoding raises `TypeError`. -/

namespace LifecycleProfiler.Python.Json

def hexDigit (n : UInt8) : UInt8 := if n < 10 then byte '0' + n else byte 'a' + (n - 10)

/-- One byte of a text inside a JSON string. -/
def escapeByte (b : UInt8) : Bytes :=
  if 32 ≤ b && b != byte '"' && b != byte '\\' then [b]
  else if 32 ≤ b then [byte '\\', b]
  else if b = 10 then utf8 "\\n"
  else if b = 13 then utf8 "\\r"
  else if b = 9 then utf8 "\\t"
  else if b = 8 then utf8 "\\b"
  else if b = 12 then utf8 "\\f"
  else utf8 "\\u00" ++ [hexDigit (b / 16), hexDigit (b % 16)]

def quote (s : String) : Bytes := byte '"' :: ((utf8 s).flatMap escapeByte ++ [byte '"'])

/-- Insert an encoded member before the first larger key. -/
def insertMember (m : String × Bytes) : List (String × Bytes) → List (String × Bytes)
  | [] => [m]
  | x :: rest => if utf8 x.1 < utf8 m.1 then x :: insertMember m rest else m :: x :: rest

def sortMembers (ms : List (String × Bytes)) : List (String × Bytes) :=
  ms.foldr insertMember []

/-- `",".join(parts)` -/
def commaJoin : List Bytes → Bytes
  | [] => []
  | [p] => p
  | p :: rest => p ++ byte ',' :: commaJoin rest

mutual
def dumps : Value → Except PyError Bytes
  | .none => .ok (utf8 "null")
  | .bool true => .ok (utf8 "true")
  | .bool false => .ok (utf8 "false")
  | .int n => .ok (utf8 (toString n))
  | .float _ text => .ok (utf8 text)
  | .str s => .ok (quote s)
  | .list xs => do
    let parts ← dumpsList xs
    return byte '[' :: commaJoin parts ++ [byte ']']
  | .dict kvs => do
    let members ← dumpsMembers kvs
    let texts := (sortMembers members).map fun m => quote m.1 ++ byte ':' :: m.2
    return byte '{' :: commaJoin texts ++ [byte '}']
  | .object _ => .error (.typeError "object is not JSON serializable")

def dumpsList : List Value → Except PyError (List Bytes)
  | [] => .ok []
  | x :: xs => do
    let head ← dumps x
    let tail ← dumpsList xs
    return head :: tail

def dumpsMembers : List (String × Value) → Except PyError (List (String × Bytes))
  | [] => .ok []
  | (k, v) :: rest => do
    let head ← dumps v
    let tail ← dumpsMembers rest
    return (k, head) :: tail
end

end LifecycleProfiler.Python.Json
