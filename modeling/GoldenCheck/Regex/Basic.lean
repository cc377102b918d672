import GoldenCheck.Regex.Bracket

/-!
# Regular expressions

A pattern is a choice of branches, each of which is a sequence of characters,
sets, groups and repetitions.  A group may have a name, and it may turn switches
for what is inside it or for the rest of the group around it.
-/

namespace GoldenCheck.Regex

/-- What is wrong with a pattern. -/
inductive Fault where
  | malformed
  /-- It looks for the boundaries of words of Unicode letters. -/
  | wordBoundary
  deriving DecidableEq

/-- What is said about a pattern. -/
def Fault.message : Fault → Text
  | .malformed => "error building NFA"
  | .wordBoundary =>
      Text.cat ["unsupported regex feature for DFAs: cannot build DFAs for regexes with ",
        "Unicode word boundaries; switch to ASCII word boundaries, or heuristically enable ",
        "Unicode word boundaries or use a different regex engine"]

/-- A part of a branch. -/
structure Item where
  measure : Measure
  /-- Whether it only turns switches and so cannot be repeated. -/
  isSwitches : Bool

/-- How a group begins. -/
inductive Opening where
  /-- It only turns switches. -/
  | switches
  /-- It has contents. -/
  | group

namespace Reader

/-- Whether the name of a group may begin with a character. -/
def startsName (c : Char) : Bool :=
  c == '_' || Text.isAlphabetic c

/-- Whether the name of a group may go on with a character. -/
def continuesName (c : Char) : Bool :=
  c == '_' || c == '.' || c == '[' || c == ']' || Text.isAlphanumeric c

/-- Whether a text is the name of a group. -/
def isName : Text → Bool
  | [] => false
  | c :: rest => startsName c && rest.all continuesName

/-- Read the name of a group and the bracket after it.  Names are not repeated. -/
def groupName : Reader Opening := do
  let state ← get
  let name := state.rest.takeWhile (· ≠ '>')
  match state.rest.dropWhile (· ≠ '>') with
  | [] => failure
  | _ :: rest => do
      require (isName name && !state.names.contains name)
      set { state with rest := rest, names := name :: state.names }
      pure .group

/-- Whether a text turns switches: each at most once, and one at least after a
dash. -/
def areSwitches (text : Text) : Bool :=
  text.all ("imsUuRx-".toList.contains ·) && text.eraseDups == text &&
    text.getLast? ≠ some '-'

/-- What becomes of a switch.  A dash turns off those after it. -/
def turned (text : Text) (letter : Char) (before : Bool) : Bool :=
  if (text.takeWhile (· ≠ '-')).contains letter then true
  else if text.contains letter then false
  else before

/-- Read switches and turn them. -/
def switches : Reader Opening := do
  let state ← get
  let text := state.rest.takeWhile fun c => c ≠ ':' && c ≠ ')'
  let turn := fun (rest : Text) =>
    { state with
      rest := rest
      freeSpacing := turned text 'x' state.freeSpacing
      unicode := turned text 'u' state.unicode }
  require (areSwitches text)
  match state.rest.drop text.length with
  | ':' :: rest => do
      set (turn rest)
      pure .group
  | ')' :: rest => do
      require (!text.isEmpty)
      set (turn rest)
      pure .switches
  | _ => failure

/-- Read what follows the opening parenthesis of a group. -/
def opening : Reader Opening := do
  if ← accept "?P<" then groupName
  else if ← accept "?<" then groupName
  else if ← accept "?" then switches
  else pure .group

/-- Several branches as one part, given the items of the last one. -/
def choice (branches : List Measure) (items : List Item) : Measure :=
  .gather (.gather (items.map Item.measure) :: branches)

/-- Read a character that is no operator. -/
def single : Reader Measure := do
  match ← current with
  | '\x5c' => do outside (← escape)
  | '.' => do
      step
      outside .dot
  | '^' | '$' => do
      step
      outside .anchor
  | c => do
      step
      outside (.literal c false)

mutual

/-- Read branches up to a closing parenthesis or the end, given the branches
before and the items of the present one, the last first. -/
def branches : Nat → List Measure → List Item → Reader Measure
  | 0, _, _ => failure
  | fuel + 1, before, items => do
      skipSpace
      match ← peek with
      | none | some ')' => pure (choice before items)
      | some '|' => do
          step
          branches fuel (.gather (items.map Item.measure) :: before) []
      | some '(' => do
          let item ← group fuel
          branches fuel before (item :: items)
      | some '[' => do
          let measure ← bracket fuel
          branches fuel before (⟨measure, false⟩ :: items)
      | some '?' | some '*' | some '+' =>
          match items with
          | ⟨measure, false⟩ :: earlier => do
              step
              let _ ← accept "?"
              branches fuel before (⟨measure.deepen, false⟩ :: earlier)
          | _ => failure
      | some '\x7b' => failure
      | some _ => do
          let measure ← single
          branches fuel before (⟨measure, false⟩ :: items)

/-- Read a group from its opening parenthesis.  The switches are turned back at
its end. -/
def group : Nat → Reader Item
  | 0 => failure
  | fuel + 1 => do
      stepSkipping
      let before ← get
      match ← opening with
      | .switches => pure ⟨.leaf, true⟩
      | .group => do
          let measure ← branches fuel [] []
          require ((← peek) == some ')')
          step
          modify fun state =>
            { state with freeSpacing := before.freeSpacing, unicode := before.unicode }
          pure ⟨measure.deepen, false⟩

end

end Reader

/-- How deeply a pattern may be nested. -/
def deepest : Nat := 250

/-- What is known of a pattern, if it is well formed. -/
def measure? (pattern : Text) : Option Measure := do
  let (measure, state) ←
    (Reader.branches (2 * pattern.length + 2) [] []).run ⟨pattern, false, true, []⟩
  if state.rest.isEmpty && measure.depth ≤ deepest then some measure else none

/-- What is wrong with a pattern, if anything is. -/
def fault? (pattern : Text) : Option Fault :=
  match measure? pattern with
  | none => some .malformed
  | some measure => if measure.wordBoundary then some .wordBoundary else none

end GoldenCheck.Regex
