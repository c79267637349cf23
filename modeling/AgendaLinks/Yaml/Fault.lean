import AgendaLinks.Document.Printer
import AgendaLinks.Time.Stamp

/-!
Why a text cannot be read as a YAML document. Most faults are breaches of the rules of the language;
the others come from scalars whose text does not fit the kind of value they are said to be.
-/

namespace AgendaLinks.Yaml

/-- Why a text is no document. -/
inductive Fault where
  /-- A rule of the language is broken. Which one is not told. -/
  | malformed
  /-- The code of an escape lies beyond the last character. -/
  | escapeRange
  /-- The code of an escape has more than 31 bits. -/
  | escapeTooLarge
  | badWhole (base : Nat) (text : Text)
  | tooManyDigits (digits : Nat)
  | badNumber (text : Text)
  | emptyNumber
  | notTruth (text : Text)
  | notTime
  | date (fault : DateFault)
  | clock (fault : ClockFault)
  /-- The offset of a time, in microseconds, is a day or more. -/
  | offset (micros : Int)
  deriving DecidableEq, Repr

/-- What sort of failure a fault is. -/
inductive Standing where
  /-- The text is no document. -/
  | rejection
  | badValue
  | overflow
  | missingKey
  | missingPlace
  | missingPart
  deriving DecidableEq, Repr

namespace Fault

def standing : Fault → Standing
  | malformed => .rejection
  | escapeTooLarge => .overflow
  | emptyNumber => .missingPlace
  | notTruth _ => .missingKey
  | notTime => .missingPart
  | escapeRange | badWhole .. | tooManyDigits _ | badNumber _ | date _ | clock _ | offset _ => .badValue

def message : Fault → String
  | malformed => "..."
  | escapeRange => "chr() arg not in range(0x110000)"
  | escapeTooLarge => "Python int too large to convert to C int"
  | badWhole base text =>
    let shown := String.ofList ((Text.quoted text).take 200)
    s!"invalid literal for int() with base {base}: {shown}"
  | tooManyDigits n =>
    s!"Exceeds the limit (4300 digits) for integer string conversion: value has {n} digits; " ++
      "use sys.set_int_max_str_digits() to increase the limit"
  | badNumber text =>
    let shown := String.ofList (Text.quoted text)
    s!"could not convert string to float: {shown}"
  | emptyNumber => "string index out of range"
  | notTruth text => String.ofList (Text.quoted text)
  | notTime => "'NoneType' object has no attribute 'groupdict'"
  | date fault => fault.message
  | clock fault => fault.message
  | offset micros =>
    let shown := String.ofList (Value.durationText micros)
    "offset must be a timedelta strictly between -timedelta(hours=24) and " ++
      s!"timedelta(hours=24), not {shown}."

end Fault

end AgendaLinks.Yaml
