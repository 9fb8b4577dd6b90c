import DoorControl.Config.Submission

/-!
Reading `key=value` fields into a submission. White space stands between fields; a value that holds
white space is put into double quotes.
-/

namespace DoorControl

open Bytes

/-- Why a text is no list of fields. -/
inductive FieldError
  | noFields
  | keyTooLong
  | noEquals (key : Bytes)
  | valueTooLong (key : Bytes)
  | unclosedQuote (key : Bytes)
  | rejected (key : Bytes)
deriving DecidableEq

def FieldError.message : FieldError → Bytes
  | noFields => ascii "no fields"
  | keyTooLong => ascii "key too long"
  | noEquals key => ascii "expected key=value near '" ++ key ++ ascii "'"
  | valueTooLong key => key ++ ascii ": value too long"
  | unclosedQuote key => key ++ ascii ": missing closing quote"
  | rejected key => key ++ ascii ": rejected"

namespace Fields

def maxKey : Nat := 23
def maxValue : Nat := 63

def isKeyByte (b : UInt8) : Bool := b != 61 && !isBlank b
def isPlainByte (b : UInt8) : Bool := !isBlank b
def isQuotedByte (b : UInt8) : Bool := b != 34

/-- Reads a key and its equals sign. -/
def readKey (s : Bytes) : Except FieldError (Bytes × Bytes) :=
  let key := s.takeWhile isKeyByte
  if maxKey < key.length then .error .keyTooLong
  else
    match s.dropWhile isKeyByte with
    | 61 :: rest => .ok (key, rest)
    | _ => .error (.noEquals key)

/-- Reads the value of a key; one that starts with a quote goes to the next quote. -/
def readValue (key : Bytes) : Bytes → Except FieldError (Bytes × Bytes)
  | 34 :: s =>
    let value := s.takeWhile isQuotedByte
    if maxValue < value.length then .error (.valueTooLong key)
    else
      match s.dropWhile isQuotedByte with
      | _ :: rest => .ok (value, rest)
      | [] => .error (.unclosedQuote key)
  | s =>
    let value := s.takeWhile isPlainByte
    if maxValue < value.length then .error (.valueTooLong key)
    else .ok (value, s.dropWhile isPlainByte)

/-- Reads one field: its key, its value and the rest of the text. -/
def readField (s : Bytes) : Except FieldError (Bytes × Bytes × Bytes) := do
  let (key, s) ← readKey s
  let (value, s) ← readValue key s
  pure (key, value, s)

/-- Reads up to `n` fields into a submission. What was read before an error stays. -/
def readUpTo (n : Nat) (sub : Submission) (s : Bytes) : Option FieldError × Submission :=
  match n, s with
  | _, [] => (none, sub)
  | 0, _ => (none, sub)
  | n + 1, s =>
    match readField s with
    | .error e => (some e, sub)
    | .ok (key, value, rest) =>
      match sub.edit? key value with
      | none => (some (.rejected key), sub)
      | some sub => readUpTo n sub (skipBlanks rest)

/-- Reads a list of fields, at least one, into a submission. Each field takes an equals sign, so
there are no more of them than bytes. -/
def readInto (sub : Submission) (s : Bytes) : Option FieldError × Submission :=
  if skipBlanks s = [] then (some .noFields, sub)
  else readUpTo s.length sub (skipBlanks s)

/-- Reads a list of fields into a fresh submission. -/
def read (s : Bytes) : Option FieldError × Submission := readInto {} s

end Fields

end DoorControl
