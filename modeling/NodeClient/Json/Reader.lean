/-
  NodeClient.Json.Reader
  ──────────────────────
  From a text to its outline.

  Each scanner takes the characters from where it starts and gives what it has found together
  with the rest, or no rest where the text stops being JSON.  Strings and numbers are scanned
  once for both kinds of reader: the first fault that only matters to one who wants the value is
  remembered, and scanning goes on.
-/
import NodeClient.Json.Outline
import NodeClient.Json.Real
import NodeClient.Hex.Digits

namespace NodeClient.Json

/-! ## §1. Blanks and words. -/

/-- The four characters that may stand between the parts of a text. -/
def isSpace (c : Char) : Bool := c == ' ' || c == '\n' || c == '\t' || c == '\r'

/-- The text behind its leading blanks. -/
def skipSpace (cs : List Char) : List Char := cs.dropWhile isSpace

/-- What a scanner has found, and the text behind it unless the text breaks off. -/
abbrev Scan := Outline × Option (List Char)

/-- A place where the text breaks off, with one fault for every reader. -/
def stopScan (f : Fault) : Scan := (.broken f f, none)

/-- The rest of a word such as `null`, which stands for a value. -/
def scanWord (found : Outline) : (word : List Char) → List Char → Scan
  | [], cs => (found, some cs)
  | _ :: _, [] => stopScan .truncated
  | w :: word, c :: cs => if w = c then scanWord found word cs else stopScan .malformed

/-! ## §2. Strings. -/

/-- A scanned string: its text, none if it stands for no text, and what follows; or the faults
for its reader and for one who passes over it. -/
inductive StringScan where
  | whole (text : Option String) (rest : List Char)
  | broken (read pass : Fault)

/-- The number of four hex digits. -/
def fourDigits? (a b c d : Char) : Option Nat := do
  let a ← Hex.digit? a
  let b ← Hex.digit? b
  let c ← Hex.digit? c
  let d ← Hex.digit? d
  return 4096 * a + 256 * b + 16 * c + d

/-- The character of a letter behind a backslash. -/
def unescapeLetter? : Char → Option Char
  | '"' => some '"'
  | '\\' => some '\\'
  | '/' => some '/'
  | 'b' => some (Char.ofNat 0x08)
  | 'f' => some (Char.ofNat 0x0C)
  | 'n' => some '\n'
  | 'r' => some '\r'
  | 't' => some '\t'
  | _ => none

/-- What a string scanner carries along: the text so far, backwards; the first half of a
surrogate pair whose second half has to come next; and the fault met by one who wants the text. -/
structure StringState where
  text : List Char := []
  half : Option Nat := none
  fault : Option Fault := none

namespace StringState

/-- A half of a surrogate pair without its other half is a fault. -/
def unpaired (s : StringState) : StringState :=
  if s.half.isSome then { s with half := none, fault := s.fault.or (some .malformed) } else s

/-- Appends a character. -/
def push (s : StringState) (c : Char) : StringState :=
  let s := s.unpaired
  { s with text := c :: s.text }

/-- Appends the 16-bit unit of a `\u` escape. -/
def pushUnit (s : StringState) (n : Nat) : StringState :=
  let isLow := 0xDC00 ≤ n && n ≤ 0xDFFF
  match s.half with
  | some high =>
      if isLow then
        let c := Char.ofNat (0x10000 + 0x400 * (high - 0xD800) + (n - 0xDC00))
        { s with half := none, text := c :: s.text }
      else { s with half := none, fault := s.fault.or (some .malformed) }
  | none =>
      if isLow then { s with fault := s.fault.or (some .malformed) }
      else if 0xD800 ≤ n && n ≤ 0xDBFF then { s with half := some n }
      else { s with text := Char.ofNat n :: s.text }

/-- The text breaks off inside the string. -/
def stop (s : StringState) (f : Fault) : StringScan := .broken (s.fault.getD f) f

/-- The closing quote. -/
def close (s : StringState) (rest : List Char) : StringScan :=
  let s := s.unpaired
  .whole (if s.fault.isSome then none else some (String.ofList s.text.reverse)) rest

end StringState

/-- Scans a string behind its opening quote. -/
def scanString (s : StringState) : List Char → StringScan
  | [] => s.stop .truncated
  | '"' :: rest => s.close rest
  | '\\' :: escape =>
      match escape with
      | [] => s.stop .truncated
      | 'u' :: a :: b :: c :: d :: rest =>
          match fourDigits? a b c d with
          | some n => scanString (s.pushUnit n) rest
          | none => s.stop .malformed
      | 'u' :: short =>
          -- Fewer than four bytes are an early end, whatever they are.
          s.stop (if (String.ofList short).utf8ByteSize < 4 then .truncated else .malformed)
      | letter :: rest =>
          match unescapeLetter? letter with
          | some c => scanString (s.push c) rest
          | none => s.unpaired.stop .malformed
  | c :: rest =>
      if c.toNat < 0x20 then s.unpaired.stop .malformed else scanString (s.push c) rest

/-! ## §3. Numbers. -/

/-- A digit has to come next: what there is instead. -/
def noDigit : List Char → Scan
  | [] => (.broken .truncated .malformed, none)
  | _ => stopScan .malformed

/-- The scanned number with the given spelling. -/
def numberScan (n : Numeral) (rest : List Char) : Scan :=
  match n.number? with
  | some number => (.number number, some rest)
  | none => (.void, some rest)

/-- Scans the exponent of a number behind its mark, if the number has one. -/
def scanExponent (n : Numeral) : List Char → Scan
  | c :: rest =>
      if c == 'e' || c == 'E' then
        let (isNegative, digits) := match rest with
          | '+' :: more => (false, more)
          | '-' :: more => (true, more)
          | _ => (false, rest)
        if (digits.takeWhile Decimal.isDigit).isEmpty then noDigit digits
        else
          numberScan { n with exponent := some (isNegative, digits.takeWhile Decimal.isDigit) }
            (digits.dropWhile Decimal.isDigit)
      else numberScan n (c :: rest)
  | [] => numberScan n []

/-- Scans a number behind its sign. -/
def scanNumber (negative : Bool) (cs : List Char) : Scan :=
  let whole := cs.takeWhile Decimal.isDigit
  let rest := cs.dropWhile Decimal.isDigit
  match whole with
  | [] => noDigit cs
  | '0' :: _ :: _ => stopScan .malformed
  | _ =>
      match rest with
      | '.' :: digits =>
          if (digits.takeWhile Decimal.isDigit).isEmpty then noDigit digits
          else
            scanExponent ⟨negative, whole, some (digits.takeWhile Decimal.isDigit), none⟩
              (digits.dropWhile Decimal.isDigit)
      | _ => scanExponent ⟨negative, whole, none, none⟩ rest

/-! ## §4. Values. -/

/-- A list that breaks off where one fault waits for every reader. -/
def Tail.stop (f : Fault) : Tail := .broken f f f

mutual

/-- Scans a value. -/
def scanValue : (fuel : Nat) → List Char → Scan
  | 0, _ => stopScan .truncated
  | fuel + 1, cs =>
      match skipSpace cs with
      | [] => stopScan .truncated
      | 'n' :: rest => scanWord .null ['u', 'l', 'l'] rest
      | 't' :: rest => scanWord (.bool true) ['r', 'u', 'e'] rest
      | 'f' :: rest => scanWord (.bool false) ['a', 'l', 's', 'e'] rest
      | '"' :: rest =>
          match scanString {} rest with
          | .whole (some s) rest => (.string s, some rest)
          | .whole none rest => (.void, some rest)
          | .broken read pass => (.broken read pass, none)
      | '-' :: rest => scanNumber true rest
      | '[' :: rest =>
          let (items, tail, rest) := scanItems fuel false rest
          (.array items tail, rest)
      | c :: rest =>
          if Decimal.isDigit c then scanNumber false (c :: rest)
          else if c.toNat = 0x7B then
            let (members, tail, rest) := scanMembers fuel false rest
            (.object members tail, rest)
          else stopScan .malformed

/-- Scans the items of an array, behind its bracket or behind an item. -/
def scanItems : (fuel : Nat) → (behindItem : Bool) → List Char →
    List Outline × Tail × Option (List Char)
  | 0, _, _ => ([], .stop .truncated, none)
  | fuel + 1, behindItem, cs =>
      match skipSpace cs, behindItem with
      | [], _ => ([], .stop .truncated, none)
      | ']' :: rest, _ => ([], .closed, some rest)
      | ',' :: rest, true =>
          match skipSpace rest with
          | [] => ([], .broken .truncated .malformed .truncated, none)
          | ']' :: _ => ([], .stop .malformed, none)
          | _ => scanItem fuel rest
      | _, true => ([], .stop .malformed, none)
      | cs, false => scanItem fuel cs

/-- Scans an item and those behind it. -/
def scanItem : (fuel : Nat) → List Char → List Outline × Tail × Option (List Char)
  | 0, _ => ([], .stop .truncated, none)
  | fuel + 1, cs =>
      match scanValue fuel cs with
      | (o, none) => ([o], .stop .malformed, none)
      | (o, some rest) =>
          let (items, tail, rest) := scanItems fuel true rest
          (o :: items, tail, rest)

/-- Scans the members of an object, behind its brace or behind a member. -/
def scanMembers : (fuel : Nat) → (behindMember : Bool) → List Char →
    List (Option String × Outline) × Tail × Option (List Char)
  | 0, _, _ => ([], .stop .truncated, none)
  | fuel + 1, behindMember, cs =>
      match skipSpace cs, behindMember with
      | [], _ => ([], .stop .truncated, none)
      | ',' :: rest, true =>
          match skipSpace rest with
          | [] => ([], .stop .truncated, none)
          | '"' :: rest => scanMember fuel rest
          | _ => ([], .stop .malformed, none)
      | '"' :: rest, false => scanMember fuel rest
      | c :: rest, _ =>
          if c.toNat = 0x7D then ([], .closed, some rest) else ([], .stop .malformed, none)

/-- Scans a member behind the opening quote of its key, and those behind it. -/
def scanMember : (fuel : Nat) → List Char →
    List (Option String × Outline) × Tail × Option (List Char)
  | 0, _ => ([], .stop .truncated, none)
  | fuel + 1, cs =>
      match scanString {} cs with
      | .broken read pass => ([], .broken read read pass, none)
      | .whole key rest =>
          match skipSpace rest with
          | [] => ([(key, .broken .truncated .truncated)], .stop .truncated, none)
          | ':' :: rest =>
              match scanValue fuel rest with
              | (o, none) => ([(key, o)], .stop .malformed, none)
              | (o, some rest) =>
                  let (members, tail, rest) := scanMembers fuel true rest
                  ((key, o) :: members, tail, rest)
          | _ => ([(key, .broken .malformed .malformed)], .stop .malformed, none)

end

/-! ## §5. Whole texts. -/

/-- A text that should hold one value. -/
structure Document where
  outline : Outline
  /-- Something other than blanks follows the value. -/
  overrun : Bool
  deriving Repr

/-- The outline of a text. -/
def Document.ofChars (cs : List Char) : Document :=
  match scanValue (3 * cs.length + 3) cs with
  | (o, none) => ⟨o, false⟩
  | (o, some rest) => ⟨o, !(skipSpace rest).isEmpty⟩

/-- What a reader makes of the outline, provided that nothing follows. -/
def Document.read {α : Type} (d : Document) (reader : Nat → Outline → Except Fault α) :
    Except Fault α := do
  let a ← reader depthLimit d.outline
  if d.overrun then .error .malformed else .ok a

/-- The value of a text, in normal form. -/
def Value.ofText (s : String) : Except Fault Value :=
  (Document.ofChars s.toList).read Outline.value

end NodeClient.Json
