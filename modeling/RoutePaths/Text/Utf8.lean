/-! Text as bytes. Text that a file holds is UTF-8, and bytes that are not
have a first fault, which says where reading had to stop and why. -/
namespace RoutePaths.Utf8

/-- Why bytes stop being UTF-8. -/
inductive Reason where
  | invalidStart
  | invalidContinuation
  | unexpectedEnd
  deriving DecidableEq, Repr

/-- The wording of a reason. -/
def Reason.message : Reason → String
  | invalidStart => "invalid start byte"
  | invalidContinuation => "invalid continuation byte"
  | unexpectedEnd => "unexpected end of data"

/-- The bytes that no character can be made of: their first position, how
many they are, and the first of them. -/
structure Fault where
  position : Nat
  count : Nat
  byte : UInt8
  reason : Reason
  deriving DecidableEq, Repr

/-- A byte in two lower-case hexadecimal digits. -/
def hexByte (byte : UInt8) : String :=
  String.ofList [Nat.digitChar (byte.toNat / 16), Nat.digitChar (byte.toNat % 16)]

/-- The wording of a fault. -/
def Fault.message (fault : Fault) : String :=
  let place :=
    if fault.count = 1 then
      "byte 0x" ++ hexByte fault.byte ++ " in position " ++ toString fault.position
    else
      "bytes in position " ++ toString fault.position ++ "-" ++
        toString (fault.position + fault.count - 1)
  "'utf-8' codec can't decode " ++ place ++ ": " ++ fault.reason.message

/-- A byte that continues a character. -/
def isContinuation (byte : UInt8) : Bool :=
  0x80 ≤ byte && byte ≤ 0xBF

/-- A byte that may come second after the given first byte of a character of
several bytes. -/
def isSecond (first second : UInt8) : Bool :=
  isContinuation second &&
    (first != 0xE0 || 0xA0 ≤ second) && (first != 0xED || second ≤ 0x9F) &&
    (first != 0xF0 || 0x90 ≤ second) && (first != 0xF4 || second ≤ 0x8F)

/-- The number of bytes of a character with the given first byte, if there
is one. -/
def length? (first : UInt8) : Option Nat :=
  if first < 0x80 then some 1
  else if 0xC2 ≤ first && first ≤ 0xDF then some 2
  else if 0xE0 ≤ first && first ≤ 0xEF then some 3
  else if 0xF0 ≤ first && first ≤ 0xF4 then some 4
  else none

/-- How many of the bytes after the first one fit, up to the given number. -/
def fitting (first : UInt8) (needed : Nat) (rest : List UInt8) : Nat :=
  match rest with
  | [] => 0
  | second :: others =>
    if needed = 0 || !isSecond first second then 0
    else 1 + ((others.take (needed - 1)).takeWhile isContinuation).length

/-- The first fault of bytes at the given position. The first number bounds
the number of characters. -/
def firstFault? : Nat → Nat → List UInt8 → Option Fault
  | 0, _, _ => none
  | _, _, [] => none
  | fuel + 1, position, first :: rest =>
    match length? first with
    | none => some ⟨position, 1, first, .invalidStart⟩
    | some length =>
      let fits := fitting first (length - 1) rest
      if fits + 1 = length then firstFault? fuel (position + length) (rest.drop fits)
      else if fits = rest.length then some ⟨position, fits + 1, first, .unexpectedEnd⟩
      else some ⟨position, fits + 1, first, .invalidContinuation⟩

/-- The text that the bytes are. -/
def decode (bytes : ByteArray) : Except Fault String :=
  match String.fromUTF8? bytes with
  | some text => .ok text
  | none => .error ((firstFault? (bytes.size + 1) 0 bytes.toList).getD ⟨0, 1, 0, .invalidStart⟩)

/-- The bytes of a text. -/
def encode (text : String) : ByteArray :=
  text.toUTF8

end RoutePaths.Utf8
