import Expectation.Matcher

/-!
# Templates

A template is literal text with matchers in it. It is compiled into one pattern
that must match a whole text: literal parts stand for themselves and each
matcher for the texts it accepts in running text. A second pattern is used when
the layout does not count: there a run of blanks in a literal part matches any
run of blanks, and blanks at both ends of the text are passed over.

Both patterns are kept with the parts, and the type says that they belong to
them; so templates with the same parts are equal.

## Main results

* `parts_of_ofParts`: a template keeps its parts.
* `ext_parts`: templates with the same parts are equal.
-/

namespace Expectation

namespace Template

/-- A part of a template. -/
inductive Part where
  | literal (text : String)
  | matcher (m : Matcher)
  deriving DecidableEq

/-! ## The patterns of the parts -/

/-- The pattern for the texts that a matcher accepts inside a longer text. -/
def embedded : Matcher → List Char
  | .anyString | .anyValue | .ignore => ".*".toList
  | .anyInt => "-?\\d+".toList
  | .anyFloat => "-?\\d+(?:\\.\\d+)?(?:[eE][+-]?\\d+)?".toList
  | .anyBool => "(?:true|false)".toList
  | .regex p => "(?:".toList ++ p.source.toList ++ ")".toList
  | .oneOf values =>
    "(?:".toList ++
      List.intercalate ['|'] (values.map fun v => Regex.escapeText v.toList) ++ ")".toList

/-- The pattern of a literal text in which every run of blanks matches any run
of blanks; `inRun` says whether a run has begun. -/
def collapsedLiteral : Bool → List Char → List Char
  | _, [] => []
  | inRun, c :: cs =>
    if Text.isBlank c then
      (if inRun then [] else "\\s+".toList) ++ collapsedLiteral true cs
    else Regex.escapeText [c] ++ collapsedLiteral false cs

/-- The pattern of a part as it stands. -/
def exactPart : Part → List Char
  | .literal text => Regex.escapeText text.toList
  | .matcher m => embedded m

/-- The pattern of a part when the layout does not count. A literal loses its
blank front if it is the first part and its blank end if it is the last. -/
def collapsedPart (first last : Bool) : Part → List Char
  | .literal text =>
    let cs := text.toList
    let cs := if first then Text.trimStart cs else cs
    let cs := if last then Text.trimEnd cs else cs
    collapsedLiteral false cs
  | .matcher m => embedded m

/-- The patterns of the parts from one on when the layout does not count. -/
def collapsedParts (first : Bool) : List Part → List Char
  | [] => []
  | p :: ps => collapsedPart first ps.isEmpty p ++ collapsedParts false ps

/-- The pattern for the texts that the parts match exactly. -/
def exactPattern (parts : List Part) : String :=
  String.ofList ("(?s)^".toList ++ parts.flatMap exactPart ++ ['$'])

/-- The pattern for the texts that the parts match up to layout. -/
def collapsedPattern (parts : List Part) : String :=
  String.ofList ("(?s)^\\s*".toList ++ collapsedParts true parts ++ "\\s*$".toList)

end Template

/-- Literal text with matchers in it. -/
structure Template where
  parts : List Template.Part
  exact : Regex
  collapsed : Regex
  exact_denoted : Regex.ofPattern (Template.exactPattern parts) = .ok exact
  collapsed_denoted : Regex.ofPattern (Template.collapsedPattern parts) = .ok collapsed

namespace Template

/-- The template with the given parts, or the pattern that is refused, which only an
embedded pattern or the size of the parts can be the reason for. -/
def ofParts (parts : List Part) : Except RefusedPattern Template :=
  match he : Regex.ofPattern (exactPattern parts) with
  | .error reason => .error ⟨exactPattern parts, reason⟩
  | .ok exact =>
    match hc : Regex.ofPattern (collapsedPattern parts) with
    | .error reason => .error ⟨collapsedPattern parts, reason⟩
    | .ok collapsed => .ok ⟨parts, exact, collapsed, he, hc⟩

/-- A template keeps the parts that it is made of. -/
theorem parts_of_ofParts {parts : List Part} {t : Template} (h : ofParts parts = .ok t) :
    t.parts = parts := by
  unfold ofParts at h
  split at h
  · contradiction
  · split at h
    · contradiction
    · cases h
      rfl

/-- Templates with the same parts are equal. -/
theorem ext_parts {s t : Template} (h : s.parts = t.parts) : s = t := by
  obtain ⟨p, e, c, he, hc⟩ := s
  obtain ⟨q, e', c', he', hc'⟩ := t
  subst h
  obtain rfl : e = e' := by simpa [he] using he'
  obtain rfl : c = c' := by simpa [hc] using hc'
  rfl

instance : DecidableEq Template := fun s t =>
  if h : s.parts = t.parts then isTrue (ext_parts h)
  else isFalse fun hst => h (hst ▸ rfl)

/-- Whether a text is a reading of the template, exactly or up to layout. -/
def isMatch (t : Template) (collapse : Bool) (text : String) : Bool :=
  (if collapse then t.collapsed else t.exact).isMatch text

/-- The template as it is written in a document. -/
def describe (t : Template) : String :=
  String.join (t.parts.map fun
    | .literal text => text
    | .matcher m => m.describe)

end Template

end Expectation
