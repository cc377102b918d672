import GoldenCheck.Proofs.Lint.Acceptance
import GoldenCheck.Proofs.Lint.RuleList
import GoldenCheck.Proofs.Pairing

/-!
# Headers and their problems

The problems that concern the header are those that the header check finds, and they
stand at the first line.  A header names another file exactly if neither of the two paths
ends in the components of the other.  So a text that begins with the path of its own file
has no such problem, unless headers are forbidden.
-/

namespace GoldenCheck

/-! ## Components -/

theorem Path.fileName?_eq_some_iff {path : Path} {name : Bytes} :
    path.fileName? = some name ↔ path.components.getLast? = some (.name name) := by
  rw [fileName?]
  split <;> simp_all

theorem Path.endsWith_iff {path suffix : Path} :
    path.endsWith suffix = true ↔ suffix.components <:+ path.components :=
  List.isSuffixOf_iff_suffix

namespace Fixture

open GoldenCheck.Text (isBlank)

theorem Header.names_iff {header : Header} {path : Path} :
    header.names path = true ↔
      header.path.components <:+ path.components ∨ path.components <:+ header.path.components := by
  rw [names, Bool.or_eq_true, Path.endsWith_iff, Path.endsWith_iff]

/-- The header of a text is its first line, if that names a file. -/
theorem header_parse_eq_some_iff {path : Path} {tool text : Text} {header : Header} :
    (parse path tool text).header = some header ↔
      ∃ body ending word, (splitLines text)[0]? = some (body, ending) ∧ NamesFile body word ∧
        header = ⟨Path.ofText word, body, ending⟩ := by
  rw [header_parse, splitHeader_fst, Option.bind_eq_some_iff]
  simp only [Header.detect_eq_some_iff]
  constructor
  · rintro ⟨⟨body, ending⟩, found, word, names, rfl⟩
    exact ⟨body, ending, word, found, names, rfl⟩
  · rintro ⟨body, ending, word, found, names, rfl⟩
    exact ⟨(body, ending), found, word, names, rfl⟩

/-- The line that repeats a path. -/
def ownHeader (word : Text) : Text :=
  '#' :: ' ' :: word

section OwnHeader

variable {word : Text} (solid : ∀ c ∈ word, isBlank c = false)
  (python : (Path.ofText word).isPython = true)

include python in
theorem ne_nil_of_isPython : word ≠ [] := by
  rintro rfl
  exact absurd python (by decide)

include solid python in
theorem namesFile_ownHeader : NamesFile (ownHeader word) word where
  shape := by
    refine ⟨[' '], [], by simp [ownHeader], ?_, nofun⟩
    intro c member
    rw [List.mem_singleton.mp member]
    decide
  filled := ne_nil_of_isPython python
  solid := solid
  python := python

include solid python in
/-- A path without white space fits on one line. -/
theorem divides_ownHeader (ending : Ending) :
    Divides (ownHeader word ++ ending.text) (ownHeader word) ending where
  joined := rfl
  inside := by
    intro newline
    have inWord : '\n' ∈ word := by simpa [ownHeader] using newline
    exact absurd (solid _ inWord) (by decide)
  whole := by
    intro _ carriage
    have last : (ownHeader word).getLast? = word.getLast? :=
      List.getLast?_append_of_ne_nil ['#', ' '] (ne_nil_of_isPython python)
    have inWord : '\r' ∈ word := List.mem_of_getLast? (last.symm.trans carriage)
    exact absurd (solid _ inWord) (by decide)

include solid python in
/-- A text that begins with a path has it for its header. -/
theorem header_parse_ownHeader {ending : Ending} (ended : ending ≠ .none) (path : Path)
    (tool rest : Text) :
    (parse path tool (ownHeader word ++ ending.text ++ rest)).header =
      some ⟨Path.ofText word, ownHeader word, ending⟩ := by
  rw [header_parse_eq_some_iff]
  refine ⟨ownHeader word, ending, word, ?_, namesFile_ownHeader solid python, rfl⟩
  rw [splitLines_append (divides_ownHeader solid python ending) ended]
  rfl

end OwnHeader

end Fixture

/-! ## Problems of the header -/

/-- Whether a kind of problem is one with the header of a fixture. -/
def Problem.Kind.concernsHeader : Problem.Kind → Bool
  | .missingHeader => true
  | .unexpectedHeader => true
  | .headerPathMismatch => true
  | _ => false

namespace Lint

open Fixture (Ending NamesFile splitLines ownHeader)

theorem concernsHeader_of_mem_headerFindings {policy : Policy} {fixture : Fixture}
    {finding : Finding} (member : finding ∈ headerFindings policy fixture) :
    finding.1.concernsHeader = true := by
  rcases List.mem_append.mp member with presence | naming
  · rcases kind_of_mem_headerPresence presence with kind | kind
    · rw [kind]
      rfl
    · rw [kind]
      rfl
  · rw [kind_of_mem_headerNaming naming]
    rfl

theorem concernsHeader_of_mem_lineFindings {policy : Policy} {line : Fixture.Line}
    {comment : Comment} {finding : Finding} (member : finding ∈ lineFindings policy line comment) :
    finding.1.concernsHeader = false := by
  rcases List.mem_append.mp member with rule | spacing
  · have concernsRules := concernsRules_of_mem_ruleFindings rule
    cases kind : finding.1 <;> simp_all [Problem.Kind.concernsRules, Problem.Kind.concernsHeader]
  · rw [spacingFindings] at spacing
    split at spacing
    · rcases List.mem_append.mp spacing with spelling | gap
      · rw [kind_of_mem_spellingFindings spelling]
        rfl
      · rw [kind_of_mem_gapFindings gap]
        rfl
    · contradiction

/-- The problems with the header are the findings on the header, at the first line. -/
theorem filter_concernsHeader_problems (policy : Policy) (fixture : Fixture) :
    (problems policy fixture).filter (fun problem => problem.kind.concernsHeader) =
      place fixture.path 1 (headerFindings policy fixture) := by
  have kept : (place fixture.path 1 (headerFindings policy fixture)).filter
      (fun problem => problem.kind.concernsHeader) =
        place fixture.path 1 (headerFindings policy fixture) := by
    rw [List.filter_eq_self]
    intro problem member
    obtain ⟨finding, isFinding, rfl⟩ := List.mem_map.mp member
    exact concernsHeader_of_mem_headerFindings isFinding
  rw [problems, List.filter_append, kept, List.append_right_eq_self, List.filter_eq_nil_iff]
  intro problem member
  obtain ⟨⟨number, line, comment⟩, -, placed⟩ := List.mem_flatMap.mp member
  obtain ⟨finding, isFinding, rfl⟩ := List.mem_map.mp placed
  simp [concernsHeader_of_mem_lineFindings isFinding]

/-- A header that names another file is reported. -/
theorem headerPathMismatch_mem_problems_iff {policy : Policy} {fixture : Fixture} :
    (∃ problem ∈ problems policy fixture, problem.kind = .headerPathMismatch) ↔
      ∃ header, fixture.header = some header ∧ ¬header.names fixture.path = true := by
  constructor
  · rintro ⟨problem, member, kind⟩
    have concerned : problem ∈ (problems policy fixture).filter
        (fun problem => problem.kind.concernsHeader) := by
      rw [List.mem_filter, kind]
      exact ⟨member, rfl⟩
    rw [filter_concernsHeader_problems] at concerned
    obtain ⟨finding, isFinding, rfl⟩ := List.mem_map.mp concerned
    by_contra named
    push Not at named
    have nothing := headerNaming_eq_nil_iff.mpr named
    rw [headerFindings, nothing, List.append_nil] at isFinding
    rcases kind_of_mem_headerPresence isFinding with other | other
    · exact absurd (other.symm.trans kind) (by decide)
    · exact absurd (other.symm.trans kind) (by decide)
  · rintro ⟨header, headed, named⟩
    have found : headerNaming fixture.path fixture.header ≠ [] := by
      rw [ne_eq, headerNaming_eq_nil_iff]
      exact fun all => named (all header headed)
    obtain ⟨finding, isFinding⟩ := List.exists_mem_of_ne_nil _ found
    have placed : ⟨fixture.path, 1, finding.1, finding.2⟩ ∈
        place fixture.path 1 (headerFindings policy fixture) :=
      List.mem_map.mpr ⟨finding, List.mem_append_right _ isFinding, rfl⟩
    rw [← filter_concernsHeader_problems] at placed
    exact ⟨_, List.mem_of_mem_filter placed, kind_of_mem_headerNaming isFinding⟩

/-- A text has a header exactly if its first line is `#` and one word with white space
around it at most, where the last component of the word is the name of a Python file; the
path of the header is the word.  It is reported to name another file exactly if neither
the components of the word nor those of the path end in the others.  So a text that
begins with the path of its own file has no problem with its header unless headers are
forbidden, and in any case the header is rendered as it was written. -/
theorem header_names_its_file (policy : Policy) (tool : Text) :
    (∀ word, (Path.ofText word).isPython = true ↔
      ∃ name stem extension, (Path.ofText word).components.getLast? = some (.name name) ∧
        IsPythonName name stem extension) ∧
    (∀ path text header, (Fixture.parse path tool text).header = some header ↔
      ∃ body ending word, (splitLines text)[0]? = some (body, ending) ∧ NamesFile body word ∧
        header = ⟨Path.ofText word, body, ending⟩) ∧
    (∀ path text,
      (∃ problem ∈ problems policy (Fixture.parse path tool text),
        problem.kind = .headerPathMismatch) ↔
      ∃ body ending word, (splitLines text)[0]? = some (body, ending) ∧ NamesFile body word ∧
        ¬(Path.ofText word).components <:+ path.components ∧
        ¬path.components <:+ (Path.ofText word).components) ∧
    ∀ word ending rest, (∀ c ∈ word, Text.isBlank c = false) →
      (Path.ofText word).isPython = true → ending ≠ .none →
      let text := ownHeader word ++ Ending.text ending ++ rest
      let fixture := Fixture.parse (Path.ofText word) tool text
      (policy.header ≠ .forbidden →
        (problems policy fixture).filter (fun problem => problem.kind.concernsHeader) = []) ∧
      fixture.renderHeader = ownHeader word ++ ending.text ∧ fixture.render = text := by
  refine ⟨?_, ?_, ?_, ?_⟩
  · intro word
    simp only [Path.isPython_iff, Path.fileName?_eq_some_iff]
  · intro path text header
    exact Fixture.header_parse_eq_some_iff
  · intro path text
    rw [headerPathMismatch_mem_problems_iff]
    simp only [Fixture.header_parse_eq_some_iff, Fixture.Header.names_iff, Fixture.path_parse,
      not_or]
    constructor
    · rintro ⟨header, ⟨body, ending, word, found, names, rfl⟩, apart⟩
      exact ⟨body, ending, word, found, names, apart⟩
    · rintro ⟨body, ending, word, found, names, apart⟩
      exact ⟨_, ⟨body, ending, word, found, names, rfl⟩, apart⟩
  · intro word ending rest solid python ended text fixture
    have headed : fixture.header = some ⟨Path.ofText word, ownHeader word, ending⟩ :=
      Fixture.header_parse_ownHeader solid python ended (Path.ofText word) tool rest
    refine ⟨?_, ?_, Fixture.render_parse _ tool text⟩
    · intro allowed
      rw [filter_concernsHeader_problems, place_eq_nil_iff, headerFindings_eq_nil_iff, headed]
      constructor
      · intro header same
        obtain rfl := Option.some.inj same
        exact ⟨allowed, Fixture.Header.names_iff.mpr (.inl (List.suffix_refl _))⟩
      · nofun
    · rw [Fixture.renderHeader, headed]
      rfl

/-- A path with several dots, a dot in front of its name, and slashes that say nothing. -/
theorem header_of_untidy_path :
    let word : Text := "../t//.x.y.pyi/"
    let policy : Policy := ⟨.required, .any, true⟩
    let fixture := Fixture.parse (Path.ofText word) "pyright" (ownHeader word ++ "\r\nx\n".toList)
    (∀ c ∈ word, Text.isBlank c = false) ∧ (Path.ofText word).isPython = true ∧
      (problems policy fixture).filter (fun problem => problem.kind.concernsHeader) = [] ∧
      fixture.renderHeader = "# ../t//.x.y.pyi/\r\n".toList := by
  intro word policy fixture
  have noBlank : word.all (fun c => !Text.isBlank c) = true := by decide
  have solid : ∀ c ∈ word, Text.isBlank c = false := by
    intro c member
    simpa using List.all_eq_true.mp noBlank c member
  have python : (Path.ofText word).isPython = true := by decide +kernel
  obtain ⟨-, -, -, own⟩ := header_names_its_file policy "pyright"
  obtain ⟨silent, rendered, -⟩ := own word .crlf "x\n" solid python nofun
  exact ⟨solid, python, silent nofun, rendered⟩

end Lint

end GoldenCheck
