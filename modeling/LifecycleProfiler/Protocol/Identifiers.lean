import LifecycleProfiler.Python.Raise

/-! # Wire identifiers

The regular expressions the record builders match identifiers with, and the
unsigned domains of the numeric fields. -/

namespace LifecycleProfiler.Protocol
open Python

def uint32Max : Nat := 2 ^ 32 - 1
def uint64Max : Nat := 2 ^ 64 - 1

def isHexDigit (b : UInt8) : Bool :=
  (byte '0' ≤ b && b ≤ byte '9') || (byte 'a' ≤ b && b ≤ byte 'f')

def isDecimalDigit (b : UInt8) : Bool := byte '0' ≤ b && b ≤ byte '9'

/-- `[0-9a-f]{n}` -/
def isHexBytes (n : Nat) (bs : Bytes) : Bool := bs.length == n && bs.all isHexDigit

/-- `^[0-9a-f]{n}$` -/
def isHex (n : Nat) (s : String) : Bool := isHexBytes n (utf8 s)

/-- `0|[1-9][0-9]{0,19}` -/
def isDecimalSuffix : Bytes → Bool
  | [] => false
  | b :: rest =>
    (b == byte '0' && rest.isEmpty) ||
      (byte '1' ≤ b && b ≤ byte '9' && rest.length ≤ 19 && rest.all isDecimalDigit)

/-- `^[0-9a-f]{32}:k:(0|[1-9][0-9]{0,19})$` for the kind letter `k`. -/
def isScopedId (kind : Char) (s : String) : Bool :=
  isHexBytes 32 ((utf8 s).take 32) &&
    ((utf8 s).drop 32).take 3 == [byte ':', byte kind, byte ':'] &&
    isDecimalSuffix ((utf8 s).drop 35)

def isEventId : String → Bool := isScopedId 'e'
def isSpanId : String → Bool := isScopedId 's'
def isHandoffId : String → Bool := isScopedId 'h'
def isTransferId : String → Bool := isScopedId 't'
def isProfileRecordId : String → Bool := isScopedId 'k'

/-- The number after the last colon. -/
def decimalSuffix (s : String) : Nat :=
  ((utf8 s).drop 35).foldl (fun n b => 10 * n + (b.toNat - 48)) 0

/-- `f"{prefix}:{kind}:{seq}"`. -/
def scopedId (owner kind : String) (seq : Nat) : String := s!"{owner}:{kind}:{seq}"

theorem repr_injective {n m : Nat} (h : n.repr = m.repr) : n = m := by
  have hdigits := congrArg String.toList h
  rw [Nat.toList_repr, Nat.toList_repr] at hdigits
  simpa using congrArg (fun digits => Nat.ofDigitChars 10 digits 0) hdigits

/-- The identifiers of one owner and kind differ in their number. -/
theorem scopedId_injective {owner kind : String} {n m : Nat}
    (h : scopedId owner kind n = scopedId owner kind m) : n = m := by
  rw [scopedId, scopedId, String.append_right_inj] at h
  exact repr_injective h

/-- Printable ASCII, the characters from space to tilde. -/
def isPrintableAscii (s : String) : Bool := (utf8 s).all fun b => 32 ≤ b && b ≤ 126

/-- The text of `v` inside an f-string. -/
def formatted : Value → String
  | .none => "None"
  | .bool b => if b then "True" else "False"
  | .int n => toString n
  | .float _ text => text
  | .str s => s
  | .list _ => "[...]"
  | .dict _ => "\x7b...\x7d"
  | .object _ => "<object>"

/-- `isinstance(v, int)`, which admits `bool`. -/
def asInt : Value → Option Int
  | .int n => some n
  | .bool b => some (if b then 1 else 0)
  | _ => Option.none

/-- `type(v) is int and 0 <= v <= maximum`, with the number. -/
def asUint (maximum : Nat) : Value → Option Nat
  | .int n => if 0 ≤ n ∧ n ≤ maximum then some n.toNat else Option.none
  | _ => Option.none

theorem asUint_eq_some {maximum k : Nat} {v : Value} :
    asUint maximum v = some k ↔ v = .int k ∧ k ≤ maximum := by
  cases v <;> simp [asUint]
  omega

end LifecycleProfiler.Protocol
