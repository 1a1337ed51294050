/-
  NodeClient.Url.Punycode
  ───────────────────────
  Labels of domain names that are not ASCII, written in ASCII: the ASCII characters first, then,
  behind a hyphen, the other code points in ascending order, each as the number of insertions
  that are skipped before it.  The numbers have digits in base 36 with the least significant
  one in front, and a threshold for the last digit that adapts to the numbers before.
-/
import NodeClient.Text.Split

namespace NodeClient.Url.Punycode

/-! ## §1. Digits and thresholds. -/

/-- The digit of a value below 36. -/
def digitChar (n : Nat) : Char :=
  if n < 26 then Char.ofNat (97 + n) else Char.ofNat (22 + n)

/-- The value of a digit. -/
def digit? (c : Char) : Option Nat :=
  if 'a' ≤ c ∧ c ≤ 'z' then some (c.toNat - 97)
  else if '0' ≤ c ∧ c ≤ '9' then some (c.toNat - 22)
  else none

/-- The threshold of the digit with weight `k / 36`: a digit below it is the last one. -/
def threshold (k bias : Nat) : Nat :=
  if k ≤ bias then 1 else if bias + 26 ≤ k then 26 else k - bias

/-- Divides by 35 while the value is above 455, counting by 36. -/
def damped (delta k : Nat) : Nat × Nat :=
  if 455 < delta then damped (delta / 35) (k + 36) else (delta, k)
termination_by delta
decreasing_by omega

/-- The bias behind a number, given how many characters there are by then. -/
def adapt (delta count : Nat) (isFirst : Bool) : Nat :=
  let halved := if isFirst then delta / 700 else delta / 2
  let (rest, k) := damped (halved + halved / count) 0
  k + 36 * rest / (rest + 38)

/-! ## §2. Writing. -/

/-- The digits of a number. -/
def digits (bias k n : Nat) : List Char :=
  let t := threshold k bias
  if n < t then [digitChar n]
  else digitChar (t + (n - t) % (36 - t)) :: digits bias (k + 36) ((n - t) / (36 - t))
termination_by n
decreasing_by
  rename_i h
  have positive : 1 ≤ threshold k bias := by unfold threshold; split <;> (try split) <;> omega
  have : (n - threshold k bias) / (36 - threshold k bias) ≤ n - threshold k bias :=
    Nat.div_le_self _ _
  omega

/-- Where the writing stands: what is written, the insertions skipped, the bias, and how many
characters are in place. -/
structure Progress where
  written : List Char
  skipped : Nat
  bias : Nat
  placed : Nat

/-- Passes one character while the code point `m` is being put in place. -/
def Progress.pass (m basic : Nat) (p : Progress) (c : Char) : Progress :=
  if c.toNat < m then { p with skipped := p.skipped + 1 }
  else if c.toNat = m then
    { written := p.written ++ digits p.bias 36 p.skipped
      skipped := 0
      bias := adapt p.skipped (p.placed + 1) (p.placed == basic)
      placed := p.placed + 1 }
  else p

/-- Puts the code points in place one after the other; `n` is the least one still possible. -/
def place (label : List Char) (basic : Nat) (n : Nat) (p : Progress) : List Nat → Progress
  | [] => p
  | m :: rest =>
      let p := { p with skipped := p.skipped + (m - n) * (p.placed + 1) }
      let p := label.foldl (Progress.pass m basic) p
      place label basic (m + 1) { p with skipped := p.skipped + 1 } rest

/-- The code points beyond ASCII, ascending, each once. -/
def codePoints (label : List Char) : List Nat :=
  ((label.map Char.toNat).filter (0x80 ≤ ·)).mergeSort.eraseDups

/-- The label in ASCII. -/
def encode (label : List Char) : List Char :=
  let basic := label.filter fun c => c.toNat < 0x80
  let lead := if basic.isEmpty then [] else basic ++ ['-']
  (place label basic.length 0x80 ⟨lead, 0, 72, basic.length⟩ (codePoints label)).written

/-! ## §3. Reading. -/

/-- Adds the number in front to `i`: the sum, and what stands behind the number. -/
def number? (bias : Nat) : (k weight i : Nat) → List Char → Option (Nat × List Char)
  | _, _, _, [] => none
  | k, weight, i, c :: rest =>
      match digit? c with
      | none => none
      | some d =>
          let t := threshold k bias
          if d < t then some (i + d * weight, rest)
          else number? bias (k + 36) (weight * (36 - t)) (i + d * weight) rest

/-- Reads numbers and inserts their code points.  `fuel` bounds the numbers; there are never
more than digits. -/
def insert? : (fuel : Nat) → (bias n i : Nat) → List Char → List Char → Option (List Char)
  | _, _, _, _, label, [] => some label
  | 0, _, _, _, _, _ :: _ => none
  | fuel + 1, bias, n, i, label, s@(_ :: _) =>
      match number? bias 36 1 i s with
      | none => none
      | some (next, rest) =>
          let count := label.length + 1
          let point := n + next / count
          if h : point.isValidChar then
            insert? fuel (adapt (next - i) count (i == 0)) point (next % count + 1)
              (label.insertIdx (next % count) (Char.ofNatAux point h)) rest
          else none

/-- The label that a text stands for. -/
def decode? (s : List Char) : Option (List Char) :=
  let tail := (s.reverse.takeWhile (· ≠ '-')).reverse
  let lead := s.take (s.length - tail.length - 1)
  insert? s.length 72 0x80 0 lead tail

end NodeClient.Url.Punycode
