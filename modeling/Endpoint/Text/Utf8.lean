import Endpoint.Text.Numeral

/-!
# UTF-8

Octets to text. The first octet that cannot go on with what comes before it is a fault, which tells where the
character at fault begins and how far it could be followed.
-/

namespace Endpoint.Text

/-- What is wrong with octets that are no text. -/
inductive Utf8Reason where
  | invalidStart
  | invalidContinuation
  | truncated
  deriving DecidableEq, Repr

/-- A place in octets where they are no text: the first octet of the character, its place, and the place after the
part of the character that could be followed. -/
structure Utf8Fault where
  octet : Nat
  start : Nat
  stop : Nat
  reason : Utf8Reason
  deriving DecidableEq, Repr

/-- The wording of a reason. -/
def Utf8Reason.text : Utf8Reason → String
  | .invalidStart => "invalid start byte"
  | .invalidContinuation => "invalid continuation byte"
  | .truncated => "unexpected end of data"

/-- The wording of a fault. -/
def Utf8Fault.message (f : Utf8Fault) : String :=
  let place :=
    if f.stop = f.start + 1 then
      "byte 0x" ++ String.ofList (hexPadded 2 f.octet) ++ " in position " ++ toString f.start
    else "bytes in position " ++ toString f.start ++ "-" ++ toString (f.stop - 1)
  "\x27utf-8\x27 codec can\x27t decode " ++ place ++ ": " ++ f.reason.text

/-- Whether an octet continues a character. -/
def isTail (b : Nat) : Bool :=
  0x80 ≤ b && b ≤ 0xBF

/-- Whether an octet may stand second after a first octet of a character of three. -/
def isSecondOfThree (a b : Nat) : Bool :=
  isTail b && (a != 0xE0 || 0xA0 ≤ b) && (a != 0xED || b < 0xA0)

/-- Whether an octet may stand second after a first octet of a character of four. -/
def isSecondOfFour (a b : Nat) : Bool :=
  isTail b && (a != 0xF0 || 0x90 ≤ b) && (a != 0xF4 || b < 0x90)

/-- The text of octets that begin at a place. -/
def decodeFrom (pos : Nat) : List Nat → Except Utf8Fault (List Char)
  | [] => .ok []
  | a :: r =>
    let fault (length : Nat) (reason : Utf8Reason) : Except Utf8Fault (List Char) :=
      .error ⟨a, pos, pos + length, reason⟩
    if a < 0x80 then (decodeFrom (pos + 1) r).map (Char.ofNat a :: ·)
    else if 0xC2 ≤ a ∧ a ≤ 0xDF then
      match r with
      | [] => fault 1 .truncated
      | b :: r =>
        if isTail b then (decodeFrom (pos + 2) r).map (Char.ofNat ((a - 0xC0) * 0x40 + (b - 0x80)) :: ·)
        else fault 1 .invalidContinuation
    else if 0xE0 ≤ a ∧ a ≤ 0xEF then
      match r with
      | [] => fault 1 .truncated
      | b :: r =>
        if isSecondOfThree a b then
          match r with
          | [] => fault 2 .truncated
          | c :: r =>
            if isTail c then
              (decodeFrom (pos + 3) r).map
                (Char.ofNat ((a - 0xE0) * 0x1000 + (b - 0x80) * 0x40 + (c - 0x80)) :: ·)
            else fault 2 .invalidContinuation
        else fault 1 .invalidContinuation
    else if 0xF0 ≤ a ∧ a ≤ 0xF4 then
      match r with
      | [] => fault 1 .truncated
      | b :: r =>
        if isSecondOfFour a b then
          match r with
          | [] => fault 2 .truncated
          | c :: r =>
            if isTail c then
              match r with
              | [] => fault 3 .truncated
              | d :: r =>
                if isTail d then
                  (decodeFrom (pos + 4) r).map
                    (Char.ofNat ((a - 0xF0) * 0x40000 + (b - 0x80) * 0x1000 + (c - 0x80) * 0x40 + (d - 0x80)) :: ·)
                else fault 3 .invalidContinuation
            else fault 2 .invalidContinuation
        else fault 1 .invalidContinuation
    else fault 1 .invalidStart

/-- The text of some octets. -/
def decode (bytes : List Nat) : Except Utf8Fault (List Char) :=
  decodeFrom 0 bytes

/-- The octets of a text. -/
def encode (s : String) : List Nat :=
  s.toUTF8.toList.map UInt8.toNat

/-- The text with every end of a line as a single newline. -/
def unifyNewlines : List Char → List Char
  | [] => []
  | '\r' :: '\n' :: r => '\n' :: unifyNewlines r
  | '\r' :: r => '\n' :: unifyNewlines r
  | c :: r => c :: unifyNewlines r

end Endpoint.Text
