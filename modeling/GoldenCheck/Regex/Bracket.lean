import GoldenCheck.Regex.Reader

/-!
# Sets in brackets

A set in brackets is a union of characters, ranges, classes by name and further
sets in brackets.  Unions may be joined by `&&`, `--` and `~~`, which are read
from left to right.
-/

namespace GoldenCheck.Regex.Reader

/-- The names of the classes of ASCII. -/
def classNames : List Text :=
  ["alnum", "alpha", "ascii", "blank", "cntrl", "digit", "graph", "lower", "print", "punct",
    "space", "upper", "word", "xdigit"]

/-- A class by name at the front of a text: whether it is negated, and what
follows it. -/
def className? : Text → Option (Bool × Text)
  | '[' :: ':' :: after =>
      let negated := after.head? == some '^'
      let body := if negated then after.tail else after
      match body.dropWhile (· ≠ ':') with
      | ':' :: ']' :: rest =>
          if classNames.contains (body.takeWhile (· ≠ ':')) then some (negated, rest) else none
      | _ => none
  | _ => none

/-- Read one end of a range, or one member of a set. -/
def member : Reader Primitive := do
  match ← current with
  | '\x5c' => escape
  | c => do
      step
      pure (.literal c false)

/-- Read a member or a range.  A dash before a dash or before the closing bracket
makes no range. -/
def memberOrRange : Reader Measure := do
  let first ← member
  skipSpace
  let c ← current
  let after ← peekAfter
  if c ≠ '-' || after == some ']' || after == some '-' then
    inside first
  else
    stepSkipping
    let _ ← current
    let last ← member
    match first, last with
    | .literal low _, .literal high _ => do
        require (low ≤ high)
        pure ((← inside first).join (← inside last))
    | _, _ => failure

/-- Read the dashes at the front of a set, which are members. -/
def leadingDashes : Nat → Reader (List Measure)
  | 0 => failure
  | fuel + 1 => do
      if (← current) = '-' then
        stepSkipping
        pure (.leaf :: (← leadingDashes fuel))
      else
        pure []

/-- Read the members at the front of a set that would mean something else further
on: dashes, or else a closing bracket. -/
def leadingMembers (fuel : Nat) : Reader (List Measure) := do
  let dashes ← leadingDashes fuel
  if dashes.isEmpty && (← current) == ']' then
    stepSkipping
    let _ ← current
    pure [.leaf]
  else
    pure dashes

/-- Read an opening bracket and whether the set is negated. -/
def openBracket : Reader Bool := do
  stepSkipping
  if (← current) = '^' then
    stepSkipping
    let _ ← current
    pure true
  else
    pure false

/-- A union after what stands to the left of its operator. -/
def operation (left : Option Measure) (members : List Measure) : Measure :=
  match left with
  | none => .gather members
  | some measure => (measure.join (.gather members)).deepen

/-- Whether a character written twice is an operator. -/
def isOperator (c : Char) : Bool :=
  c == '&' || c == '-' || c == '~'

mutual

/-- Read a set from its opening bracket.  The negation of a set of bytes is no
set of ASCII. -/
def bracket : Nat → Reader Measure
  | 0 => failure
  | fuel + 1 => do
      let negated ← openBracket
      let first ← leadingMembers fuel
      let measure ← members fuel none first
      require ((← get).unicode || !negated)
      pure measure.deepen

/-- Read the members of a set up to its closing bracket. -/
def members : Nat → Option Measure → List Measure → Reader Measure
  | 0, _, _ => failure
  | fuel + 1, left, found => do
      skipSpace
      let c ← current
      if c = ']' then
        step
        pure (operation left found)
      else if c = '[' then
        match className? (← get).rest with
        | some (negated, rest) => do
            modify fun state => { state with rest := rest }
            require ((← get).unicode || !negated)
            members fuel left (.leaf :: found)
        | none => do
            let nested ← bracket fuel
            members fuel left (nested :: found)
      else if isOperator c && (← peekSecond) == some c then
        step
        step
        members fuel (some (operation left found)) []
      else
        let measure ← memberOrRange
        members fuel left (measure :: found)

end

end GoldenCheck.Regex.Reader
