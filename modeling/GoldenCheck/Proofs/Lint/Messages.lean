import GoldenCheck.Proofs.Comment.Canonical
import GoldenCheck.Proofs.Comment.Rules
import GoldenCheck.Proofs.Fixture.Comments
import GoldenCheck.Proofs.Lint.Strictness
import GoldenCheck.Proofs.Text.Utf8

/-!
# Messages without newlines

A message cites parts of the fixture that it is about: its path, the path of its header, a
comment as written or in its usual spelling, the entries of a comment, and the gap in front
of it.  None of them can bring a newline along.  A line of a text holds none, and so neither
does a comment that is found in one, whatever the tool is called; the path of a header is a
word without white space; and quoting spells out newlines.
-/

namespace GoldenCheck

/-! ## Texts put together -/

namespace Text

theorem newline_not_mem_cite {text : Text} (onLine : '\n' ∉ text) : '\n' ∉ cite text := by
  simpa [cite, cat] using onLine

theorem newline_not_mem_commaList {names : List Text} (onLine : ∀ name ∈ names, '\n' ∉ name) :
    '\n' ∉ commaList names := by
  intro newline
  rcases mem_commaList newline with isComma | isSpace | ⟨name, listed, inside⟩
  · exact absurd isComma (by decide)
  · exact absurd isSpace (by decide)
  · exact onLine name listed inside

/-! ## Numerals and quotes -/

theorem newline_not_mem_toDigits {base : Nat} (proper : 1 < base) (n : Nat) :
    '\n' ∉ Nat.toDigits base n := by
  induction n using Nat.strong_induction_on with
  | _ n ih =>
      have noDigit (digit : Nat) : '\n' ≠ Nat.digitChar digit :=
        (Nat.digitChar_ne '\n' (by decide)).symm
      rw [Nat.toDigits_eq_if proper]
      split
      · rw [List.mem_singleton]
        exact noDigit n
      · rename_i large
        have smaller : n / base < n := Nat.div_lt_self (by omega) proper
        rw [List.mem_append, List.mem_singleton]
        rintro (front | last)
        · exact ih (n / base) smaller front
        · exact noDigit _ last

theorem newline_not_mem_decimal (n : Nat) : '\n' ∉ decimal n :=
  newline_not_mem_toDigits (by decide) n

/-- Inside quotes a newline is spelled out. -/
theorem newline_not_mem_quoteChar (c : Char) : '\n' ∉ quoteChar c := by
  have numeral : '\n' ∉ hexadecimal c.toNat := newline_not_mem_toDigits (by decide) c.toNat
  by_cases newline : c = '\n'
  · rw [newline]
    decide
  · unfold quoteChar
    split_ifs <;> simp [cat, numeral, Ne.symm newline]

theorem newline_not_mem_quote (text : Text) : '\n' ∉ quote text := by
  simp [quote, cat, newline_not_mem_quoteChar]

end Text

/-! ## Comments and headers -/

/-- A comment whose parts stand on one line. -/
structure Comment.OnOneLine (comment : Comment) : Prop where
  raw : '\n' ∉ comment.raw
  tool : '\n' ∉ comment.tool
  codes : ∀ code ∈ comment.codes, '\n' ∉ code

/-- A comment that is found in a line stands on it, with the tool as it is written there. -/
theorem Comment.onOneLine_of_find {tool line : Text} {comment : Comment}
    (found : find tool line = some comment) (inside : '\n' ∉ line) : comment.OnOneLine := by
  rcases find_eq_some_iff.mp found with ⟨before, reading, ⟨occurs, -⟩, rfl⟩
  have raw : '\n' ∉ reading.raw := by
    intro newline
    apply inside
    rw [← occurs.line_eq]
    simp [newline]
  refine ⟨raw, ?_, ?_⟩
  · intro newline
    have inTool : '\n' ∈ reading.tool := newline
    apply raw
    simp [Reading.raw, inTool]
  · intro code member newline
    exact occurs.isFor.listed_line ((of_mem_entries member).2 '\n' newline).1

theorem Comment.OnOneLine.canonical {comment : Comment} (onLine : comment.OnOneLine) :
    '\n' ∉ comment.canonical := by
  have codes := Text.newline_not_mem_commaList onLine.codes
  simp [Comment.canonical, spell, Text.cat, onLine.tool, codes]

theorem RuleError.newline_not_mem_message {fault : RuleError}
    (onLine : ∀ name, fault = .malformed name → '\n' ∉ name) : '\n' ∉ fault.message := by
  unfold message
  split
  · decide
  · rename_i name
    simp [Text.cat, Text.newline_not_mem_cite (onLine name rfl)]

theorem Path.newline_not_mem_cite {path : Path} (onLine : '\n' ∉ path.display) :
    '\n' ∉ path.cite :=
  Text.newline_not_mem_cite onLine

/-- A header names a word without white space. -/
theorem Fixture.newline_not_mem_header {path : Path} {tool text : Text} {header : Header}
    (headed : (parse path tool text).header = some header) : '\n' ∉ header.path.display := by
  rw [header_parse, splitHeader_fst, Option.bind_eq_some_iff] at headed
  rcases headed with ⟨line, -, detected⟩
  rcases Header.detect_eq_some_iff.mp detected with ⟨word, names, rfl⟩
  rw [Path.display, Path.ofText, Text.decodeLossy_encode]
  intro newline
  exact absurd (names.solid '\n' newline) (by decide)

/-! ## Findings -/

namespace Lint

theorem newline_not_mem_headerPresence {asked : HeaderPolicy} {header? : Option Fixture.Header}
    (onLine : ∀ header, header? = some header → '\n' ∉ header.path.display) {finding : Finding}
    (member : finding ∈ headerPresence asked header?) : '\n' ∉ finding.2 := by
  unfold headerPresence at member
  split at member
  · rw [List.mem_singleton.mp member]
    decide
  · rename_i header
    have cited := Path.newline_not_mem_cite (onLine header rfl)
    rw [List.mem_singleton.mp member]
    simp [Text.cat, cited]
  · contradiction

theorem newline_not_mem_headerNaming {path : Path} {header? : Option Fixture.Header}
    (shown : '\n' ∉ path.display)
    (onLine : ∀ header, header? = some header → '\n' ∉ header.path.display) {finding : Finding}
    (member : finding ∈ headerNaming path header?) : '\n' ∉ finding.2 := by
  cases header? with
  | none => contradiction
  | some header =>
      have cited := Path.newline_not_mem_cite (onLine header rfl)
      rw [headerNaming] at member
      rw [eq_of_mem_ite_nil member]
      simp [Text.cat, cited, Path.newline_not_mem_cite shown]

section Comments

variable {comment : Comment} (onLine : comment.OnOneLine)

include onLine

theorem newline_not_mem_entryFinding {code : Text} (listed : code ∈ comment.codes)
    {finding : Finding} (found : entryFinding? comment code = some finding) :
    '\n' ∉ finding.2 := by
  rw [entryFinding?] at found
  split at found
  · contradiction
  · rename_i fault failed
    have message : '\n' ∉ fault.message := by
      apply RuleError.newline_not_mem_message
      rintro name rfl
      rw [RuleName.parse] at failed
      split at failed
      · cases failed
      · split at failed
        · cases failed
        · cases failed
          exact onLine.codes code listed
    rw [← Option.some.inj found]
    simp [Text.cat, Text.newline_not_mem_cite onLine.raw, message]

theorem newline_not_mem_duplicateFinding {code : Text} (again : code ∈ comment.duplicates) :
    '\n' ∉ (duplicateFinding code).2 := by
  have listed : code ∈ comment.codes := by
    have twice := Comment.mem_repeats_iff.mp again
    exact List.mem_of_mem_filter (List.count_pos_iff.mp (Nat.lt_of_lt_of_le Nat.zero_lt_two twice))
  simp [duplicateFinding, Text.cat, Text.newline_not_mem_cite (onLine.codes code listed)]

theorem newline_not_mem_orderFindings {order : RuleOrder} {finding : Finding}
    (member : finding ∈ orderFindings order comment) : '\n' ∉ finding.2 := by
  rw [orderFindings] at member
  split at member
  · split at member
    · rename_i names parsed
      have texts := (Comment.ruleNames_eq_ok_iff.mp parsed).2
      have sorted : ∀ code ∈ sortNames (names.map RuleName.text), '\n' ∉ code := by
        intro code advised
        apply onLine.codes
        rw [← texts]
        exact (perm_sortNames _).mem_iff.mp advised
      have cited := Text.newline_not_mem_cite (Text.newline_not_mem_commaList sorted)
      rw [List.mem_singleton.mp member]
      simp [Text.cat, cited]
    · contradiction
  · contradiction

theorem newline_not_mem_ruleFindings {order : RuleOrder} {finding : Finding}
    (member : finding ∈ ruleFindings order comment) : '\n' ∉ finding.2 := by
  rw [ruleFindings] at member
  split at member
  · rw [List.mem_singleton.mp member]
    simp [Text.cat, Text.newline_not_mem_cite onLine.raw]
  · rcases List.mem_append.mp member with member | ofOrder
    · rcases List.mem_append.mp member with ofEntries | ofDuplicates
      · rcases List.mem_filterMap.mp ofEntries with ⟨code, listed, found⟩
        exact newline_not_mem_entryFinding onLine listed found
      · rcases List.mem_map.mp ofDuplicates with ⟨code, again, rfl⟩
        exact newline_not_mem_duplicateFinding onLine again
    · exact newline_not_mem_orderFindings onLine ofOrder

theorem newline_not_mem_spacingFindings {strict : Bool} {line : Fixture.Line} {finding : Finding}
    (member : finding ∈ spacingFindings strict line comment) : '\n' ∉ finding.2 := by
  rw [spacingFindings] at member
  split at member
  · rcases List.mem_append.mp member with ofSpelling | ofGap
    · rw [spellingFindings] at ofSpelling
      rw [eq_of_mem_ite_nil ofSpelling]
      simp [Text.cat, Text.newline_not_mem_cite onLine.raw,
        Text.newline_not_mem_cite onLine.canonical]
    · rw [gapFindings] at ofGap
      rw [eq_of_mem_ite_nil ofGap]
      simp [Text.cat, Text.newline_not_mem_quote]
  · contradiction

end Comments

/-! ## Problems -/

/-- No message holds a newline, unless the path of the fixture is shown with one. -/
theorem newline_not_mem_message {policy : Policy} {path : Path} {tool text : Text}
    (shown : '\n' ∉ path.display) {problem : Problem}
    (member : problem ∈ problems policy (Fixture.parse path tool text)) :
    '\n' ∉ problem.message := by
  rcases List.mem_append.mp member with ofHeader | ofLines
  · have headerOnLine (header : Fixture.Header)
        (headed : (Fixture.parse path tool text).header = some header) :
        '\n' ∉ header.path.display := Fixture.newline_not_mem_header headed
    rcases List.mem_map.mp ofHeader with ⟨finding, found, rfl⟩
    rcases List.mem_append.mp found with presence | naming
    · exact newline_not_mem_headerPresence headerOnLine presence
    · exact newline_not_mem_headerNaming shown headerOnLine naming
  · rcases List.mem_flatMap.mp ofLines with ⟨⟨number, line, comment⟩, carried, placed⟩
    rcases List.mem_map.mp placed with ⟨finding, found, rfl⟩
    rcases Fixture.mem_comments_parse_iff.mp carried with
      ⟨index, body, ending, -, isLine, -, isComment, -⟩
    rcases Fixture.getElem?_splitLines_eq_some isLine with ⟨segment, -, divides⟩
    have onLine := Comment.onOneLine_of_find isComment divides.inside
    rcases List.mem_append.mp found with ofRules | ofSpacing
    · exact newline_not_mem_ruleFindings onLine ofRules
    · exact newline_not_mem_spacingFindings onLine ofSpacing

end Lint

end GoldenCheck
