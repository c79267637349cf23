import AgendaLinks.Text.Quoted

/-!
Reading bytes as UTF-8 without any leniency, and line ends. A fault names the bytes that cannot be
read: a byte that starts no character, a sequence with a byte that does not continue it, or a
sequence cut off by the end of the data. When bytes come in pieces, a sequence may be cut by the end of one
and go on in the next.
-/

namespace AgendaLinks.Text

/-- Why a sequence of bytes is no character. -/
inductive Utf8Cause where
  | startByte
  | continuationByte
  | endOfData
  deriving DecidableEq, Repr

/-- The bytes at which reading stops: their place in the data, the first of them and their number. -/
structure Utf8Fault where
  place : Nat
  byte : UInt8
  count : Nat
  cause : Utf8Cause
  deriving DecidableEq, Repr

namespace Utf8Fault

private def reason : Utf8Cause → String
  | .startByte => "invalid start byte"
  | .continuationByte => "invalid continuation byte"
  | .endOfData => "unexpected end of data"

/-- The message about a fault: one byte is shown, several are given by their places. -/
def message (fault : Utf8Fault) : String :=
  let bytes :=
    if fault.count = 1 then
      s!"byte 0x{String.ofList (hexPadded 2 fault.byte.toNat)} in position {fault.place}"
    else s!"bytes in position {fault.place}-{fault.place + fault.count - 1}"
  s!"'utf-8' codec can't decode {bytes}: {reason fault.cause}"

end Utf8Fault

/-- Whether a byte goes on with a sequence. -/
def continues (b : UInt8) : Bool := 0x80 ≤ b && b < 0xc0

/-- Whether the second byte of a sequence fits the first: no longer form of a shorter sequence, no
surrogate and nothing beyond the last code point. -/
def fitsSecond (first second : UInt8) : Bool :=
  continues second &&
    !(first = 0xe0 && second < 0xa0) && !(first = 0xed && 0xa0 ≤ second) &&
    !(first = 0xf0 && second < 0x90) && !(first = 0xf4 && 0x90 ≤ second)

/-- What a byte that goes on with a sequence adds to it. -/
def low (b : UInt8) : Nat := b.toNat % 64

/-- The character that bytes begin with and the number of bytes that continue its first one, or the
number of bytes that go wrong. -/
def firstChar (a : UInt8) (rest : List UInt8) : Except (Nat × Utf8Cause) (Char × Nat) :=
  if a < 0x80 then .ok (Char.ofNat a.toNat, 0)
  else if a < 0xc2 || 0xf5 ≤ a then .error (1, .startByte)
  else match rest with
    | [] => .error (1, .endOfData)
    | b :: rest =>
      if !fitsSecond a b then .error (1, .continuationByte)
      else if a < 0xe0 then .ok (Char.ofNat (a.toNat % 32 * 64 + low b), 1)
      else match rest with
        | [] => .error (2, .endOfData)
        | c :: rest =>
          if !continues c then .error (2, .continuationByte)
          else if a < 0xf0 then .ok (Char.ofNat ((a.toNat % 16 * 64 + low b) * 64 + low c), 2)
          else match rest with
            | [] => .error (3, .endOfData)
            | d :: _ =>
              if !continues d then .error (3, .continuationByte)
              else .ok (Char.ofNat (((a.toNat % 8 * 64 + low b) * 64 + low c) * 64 + low d), 3)

/-- The text that bytes stand for, from a place on. -/
def ofUtf8From (place : Nat) : List UInt8 → Except Utf8Fault Text
  | [] => .ok []
  | a :: rest =>
    match firstChar a rest with
    | .ok (c, extra) => (c :: ·) <$> ofUtf8From (place + 1 + extra) (rest.drop extra)
    | .error (count, cause) => .error ⟨place, a, count, cause⟩
termination_by bytes => bytes.length
decreasing_by
  simp only [List.length_drop, List.length_cons]
  omega

/-- The text that bytes stand for. -/
def ofUtf8 (bytes : List UInt8) : Except Utf8Fault Text := ofUtf8From 0 bytes

/-- The text at the start of bytes, and what is left of them: a sequence that is cut off by their end. -/
def ofUtf8Start (place : Nat) : List UInt8 → Except Utf8Fault (Text × List UInt8)
  | [] => .ok ([], [])
  | a :: rest =>
    match firstChar a rest with
    | .ok (c, extra) => do
      let (t, cut) ← ofUtf8Start (place + 1 + extra) (rest.drop extra)
      return (c :: t, cut)
    | .error (_, .endOfData) => .ok ([], a :: rest)
    | .error (count, cause) => .error ⟨place, a, count, cause⟩
termination_by bytes => bytes.length
decreasing_by
  simp only [List.length_drop, List.length_cons]
  omega

/-- The text that bytes stand for which come in pieces, as far as it can be read, and the fault that ends it.
A sequence cut off at the end of a piece is `cut` and waits for the next one, and the places of a fault are
counted from it on. -/
def ofUtf8Pieces (cut : List UInt8) : List (List UInt8) → Text × Option Utf8Fault
  | [] =>
    match ofUtf8 cut with
    | .ok t => (t, none)
    | .error fault => ([], some fault)
  | piece :: pieces =>
    match ofUtf8Start 0 (cut ++ piece) with
    | .ok (t, cut) =>
      let (more, fault) := ofUtf8Pieces cut pieces
      (t ++ more, fault)
    | .error fault => ([], some fault)

/-- The text that bytes stand for, with a replacement character for every sequence of bytes that
cannot be read. -/
def ofAnyUtf8 : List UInt8 → Text
  | [] => []
  | a :: rest =>
    match firstChar a rest with
    | .ok (c, extra) => c :: ofAnyUtf8 (rest.drop extra)
    | .error (count, _) => '\uFFFD' :: ofAnyUtf8 (rest.drop (count - 1))
termination_by bytes => bytes.length
decreasing_by
  all_goals
    simp only [List.length_drop, List.length_cons]
    omega

/-- The bytes of a text. -/
def toUtf8 (t : Text) : List UInt8 := t.flatMap String.utf8EncodeChar

/-- Where bytes are asked for, a text stands for its own. -/
instance : Coe Text (List UInt8) := ⟨toUtf8⟩

/-- Every carriage return, with the line feed after it if there is one, read as one line feed. -/
def unifyNewlines : Text → Text
  | '\r' :: '\n' :: t => '\n' :: unifyNewlines t
  | '\r' :: t => '\n' :: unifyNewlines t
  | c :: t => c :: unifyNewlines t
  | [] => []

/-- The lines of a text, each with the line feed that ends it. -/
def lines : Text → List Text
  | [] => []
  | c :: cs =>
    if c = '\n' then ['\n'] :: lines cs
    else match lines cs with
      | [] => [[c]]
      | l :: ls => (c :: l) :: ls

end AgendaLinks.Text
