import Expectation.Html.Reference

/-!
# Tokens of a page

The text of a page is cut into tags, comments, declarations and characters.
Any text is a page, so cutting never fails: what fits nowhere is text, and a
tag that the text ends in is dropped.

How the text continues after a tag depends on what the tag does to the page:
the content of some elements is not markup. So the tokens are taken one step at
a time, by `Token.next`, in a `TextMode` that the tree decides on. The content
of an element that is not markup is one step: it reaches up to the closing tag
of the element.
-/

namespace Expectation.Html

/-! ## Tokens -/

/-- An opening tag. Names are in small letters; of attributes with one name
only the first is kept. -/
structure Tag where
  name : String
  attributes : List (String × String) := []
  selfClosing : Bool := false
  deriving DecidableEq, Repr

/-- A declaration of the document type. -/
structure Doctype where
  name : Option String := none
  publicId : Option String := none
  systemId : Option String := none
  /-- The declaration is not as it should be. -/
  faulty : Bool := false
  deriving DecidableEq, Repr

/-- A part of the text of a page. -/
inductive Token where
  | opening (tag : Tag)
  | closing (name : String)
  | char (c : Char)
  | comment (text : String)
  | doctype (d : Doctype)
  /-- Something that is not as it should be and stands for nothing itself. -/
  | fault
  | finish
  deriving DecidableEq, Repr

/-- How text is read at a place. -/
inductive TextMode where
  /-- Markup. -/
  | markup
  /-- Text with references up to the closing tag of the element. -/
  | references (tag : String)
  /-- Text up to the closing tag of the element. -/
  | raw (tag : String)
  /-- The text of a script up to its closing tag. -/
  | script
  /-- Text up to the end of the page. -/
  | plain
  deriving DecidableEq, Repr

/-! ## Characters -/

/-- The characters between the parts of a tag. -/
def isGap (c : Char) : Bool :=
  c == ' ' || c == '\t' || c == '\n' || c == '\x0C'

/-- The end of a name in a tag. -/
def endsName (c : Char) : Bool := isGap c || c == '/' || c == '>'

/-- A character that is not text is replaced. -/
def shown (c : Char) : Char := if c = '\x00' then replacement else c

/-- A text in which what cannot be shown is replaced. -/
def shownText (cs : List Char) : String := String.ofList (cs.map shown)

/-- A name in small letters. -/
def nameText (cs : List Char) : String := String.ofList (cs.map fun c => (shown c).toLower)

def dropGaps (cs : List Char) : List Char := cs.dropWhile isGap

/-- Whether a text begins with a word in small letters, up to case. -/
def beginsWith (word cs : List Char) : Bool :=
  word.isPrefixOf ((cs.take word.length).map Char.toLower)

/-- Whether a text begins with the rest of the closing tag of an element, after
the bracket. -/
def closes (tag : List Char) (cs : List Char) : Bool :=
  beginsWith ('/' :: tag) cs && (cs.drop (tag.length + 1)).head?.any endsName

/-! ## Tags -/

/-- The value of an attribute after the equals sign. There is none when the
text ends in it. -/
def attributeValue? (cs : List Char) : Option (String × List Char) :=
  let decoded (cs : List Char) : String := shownText (decodeReferences true cs)
  let quoted (mark : Char) (rest : List Char) : Option (String × List Char) :=
    match rest.dropWhile (· != mark) with
    | [] => none
    | _ :: after => some (decoded (rest.takeWhile (· != mark)), after)
  match dropGaps cs with
  | [] => none
  | '"' :: rest => quoted '"' rest
  | '\'' :: rest => quoted '\'' rest
  | rest =>
    let inValue (c : Char) : Bool := !(isGap c || c == '>')
    some (decoded (rest.takeWhile inValue), rest.dropWhile inValue)

/-- What stands behind the name of a tag: the attributes, whether the tag
closes itself, and the text after it. `fuel` bounds the length of the text, and
`seen` holds the attributes read so far, latest first. There is nothing when the
text ends in the tag. -/
def attributes? : Nat → List (String × String) → List Char →
    Option (List (String × String) × Bool × List Char)
  | 0, _, _ => none
  | fuel + 1, seen, cs =>
    match dropGaps cs with
    | [] => none
    | '>' :: rest => some (seen.reverse, false, rest)
    | '/' :: '>' :: rest => some (seen.reverse, true, rest)
    | '/' :: rest => attributes? fuel seen rest
    | c :: rest =>
      let inName (c : Char) : Bool := !(endsName c || c == '=')
      let name := nameText (c :: rest.takeWhile inName)
      let add (value : String) : List (String × String) :=
        if seen.any (·.1 == name) then seen else (name, value) :: seen
      match dropGaps (rest.dropWhile inName) with
      | '=' :: after =>
        match attributeValue? after with
        | none => none
        | some (value, after) => attributes? fuel (add value) after
      | after => attributes? fuel (add "") after

/-- The tag that begins with its name, and the text after it. -/
def tag? (cs : List Char) : Option (Tag × List Char) :=
  let rest := cs.dropWhile fun c => !endsName c
  (attributes? (rest.length + 1) [] rest).map fun (attributes, selfClosing, after) =>
    (⟨nameText (cs.takeWhile fun c => !endsName c), attributes, selfClosing⟩, after)

/-! ## Comments -/

/-- The text of a comment without the dashes that would have begun its end. -/
def withoutUnfinishedEnd (reversed : List Char) : List Char :=
  match reversed with
  | '!' :: '-' :: '-' :: text => text
  | '-' :: '-' :: text => text
  | '-' :: text => text
  | text => text

/-- The text of a comment up to its end, latest character first, and the text
after it. -/
def commentBody (reversed : List Char) : List Char → List Char × List Char
  | [] => (withoutUnfinishedEnd reversed, [])
  | '-' :: '-' :: '>' :: rest => (reversed, rest)
  | '-' :: '-' :: '!' :: '>' :: rest => (reversed, rest)
  | c :: rest => commentBody (c :: reversed) rest

/-- A comment after its opening mark. -/
def comment (cs : List Char) : Token × List Char :=
  match cs with
  | '>' :: rest => (.comment "", rest)
  | '-' :: '>' :: rest => (.comment "", rest)
  | cs =>
    let (reversed, rest) := commentBody [] cs
    (.comment (shownText reversed.reverse), rest)

/-- A comment that reaches to the next bracket. -/
def shortComment (cs : List Char) : Token × List Char :=
  (.comment (shownText (cs.takeWhile (· != '>'))), (cs.dropWhile (· != '>')).drop 1)

/-! ## Declarations -/

/-- The rest of a declaration that is skipped up to its bracket. -/
def skipDoctype (d : Doctype) (cs : List Char) : Doctype × List Char :=
  (d, (cs.dropWhile (· != '>')).drop 1)

/-- An identifier in quotation marks of a kind, after the first of them. A
bracket ends the declaration inside it. -/
def identifier (mark : Char) (cs : List Char) : String × Bool × List Char :=
  let inside (c : Char) : Bool := c != mark && c != '>'
  let rest := cs.dropWhile inside
  (shownText (cs.takeWhile inside), rest.head? == some mark, rest.drop 1)

/-- The end of a declaration behind its identifiers. -/
def doctypeEnd (d : Doctype) (cs : List Char) : Doctype × List Char :=
  match dropGaps cs with
  | [] => ({ d with faulty := true }, [])
  | rest => skipDoctype d rest

/-- A system identifier and what follows; `required` says whether it has to be
there. -/
def systemPart (required : Bool) (d : Doctype) (cs : List Char) : Doctype × List Char :=
  let take (mark : Char) (rest : List Char) : Doctype × List Char :=
    match identifier mark rest with
    | (text, true, rest) => doctypeEnd { d with systemId := some text } rest
    | (text, false, rest) => ({ d with systemId := some text, faulty := true }, rest)
  match dropGaps cs with
  | [] => ({ d with faulty := true }, [])
  | '>' :: rest => ({ d with faulty := d.faulty || required }, rest)
  | '"' :: rest => take '"' rest
  | '\'' :: rest => take '\'' rest
  | rest => skipDoctype { d with faulty := true } rest

/-- A public identifier and what follows. -/
def publicPart (d : Doctype) (cs : List Char) : Doctype × List Char :=
  let take (mark : Char) (rest : List Char) : Doctype × List Char :=
    match identifier mark rest with
    | (text, true, rest) => systemPart false { d with publicId := some text } rest
    | (text, false, rest) => ({ d with publicId := some text, faulty := true }, rest)
  match dropGaps cs with
  | [] => ({ d with faulty := true }, [])
  | '>' :: rest => ({ d with faulty := true }, rest)
  | '"' :: rest => take '"' rest
  | '\'' :: rest => take '\'' rest
  | rest => skipDoctype { d with faulty := true } rest

/-- A declaration of the document type after its keyword. -/
def doctype (cs : List Char) : Doctype × List Char :=
  match dropGaps cs with
  | [] => ({ faulty := true }, [])
  | '>' :: rest => ({ faulty := true }, rest)
  | cs =>
    let inName (c : Char) : Bool := !(isGap c || c == '>')
    let d : Doctype := { name := some (nameText (cs.takeWhile inName)) }
    match dropGaps (cs.dropWhile inName) with
    | [] => ({ d with faulty := true }, [])
    | '>' :: rest => (d, rest)
    | rest =>
      if beginsWith "public".toList rest then publicPart d (rest.drop 6)
      else if beginsWith "system".toList rest then systemPart true d (rest.drop 6)
      else skipDoctype { d with faulty := true } rest

/-! ## Content that is not markup -/

/-- The content of an element up to its closing tag, and the text from the
bracket of that tag on. -/
def untilClosing (tag : List Char) : List Char → List Char × List Char
  | [] => ([], [])
  | c :: cs =>
    if c = '<' && closes tag cs then ([], c :: cs)
    else
      let (content, rest) := untilClosing tag cs
      (c :: content, rest)

/-- How deep a script is in comments: in none, in a comment, or in a script
inside a comment. -/
inductive ScriptDepth where
  | none
  | comment
  | inner
  deriving DecidableEq, Repr

/-- The content of a script up to its closing tag. A script inside a comment
has a closing tag of its own; `dashes` counts those just before, up to two. -/
def scriptContent : ScriptDepth → Nat → List Char → List Char × List Char
  | _, _, [] => ([], [])
  | depth, dashes, c :: cs =>
    let next (depth : ScriptDepth) (dashes : Nat) : List Char × List Char :=
      let (content, rest) := scriptContent depth dashes cs
      (c :: content, rest)
    match depth with
    | .none =>
      if c = '<' && closes "script".toList cs then ([], c :: cs)
      else if c = '<' && "!--".toList.isPrefixOf cs then next .comment 0
      else next .none 0
    | .comment =>
      if c = '-' then next .comment (min 2 (dashes + 1))
      else if c = '>' && dashes = 2 then next .none 0
      else if c = '<' then
        if closes "script".toList cs then ([], c :: cs)
        else if beginsWith "script".toList cs && (cs.drop 6).head?.any endsName then next .inner 0
        else next .comment 0
      else next .comment 0
    | .inner =>
      if c = '-' then next .inner (min 2 (dashes + 1))
      else if c = '>' && dashes = 2 then next .none 0
      else if c = '<' && closes "script".toList cs then next .comment 0
      else next .inner 0

/-! ## Steps -/

/-- The tokens of plain text. -/
def charTokens (cs : List Char) : List Token := cs.map fun c => .char (shown c)

/-- The tokens for an ampersand in front of a text, and the text after the reference. A
number that does not end in a semicolon is not as it should be. -/
def ampersandTokens (cs : List Char) : List Token × List Char :=
  let (chars, rest) := afterAmpersand false cs
  ((if lacksSemicolon cs then [.fault] else []) ++ chars.map .char, rest)

/-- The tokens of a text with references; `fuel` bounds its length. -/
def referenceTokens : Nat → List Char → List Token
  | 0, cs => charTokens cs
  | _, [] => []
  | fuel + 1, c :: cs =>
    if c = '&' then
      let (tokens, rest) := ampersandTokens cs
      tokens ++ referenceTokens fuel rest
    else .char (shown c) :: referenceTokens fuel cs

/-- The content of a section of characters up to its end. -/
def sectionContent : List Char → List Char × List Char
  | [] => ([], [])
  | ']' :: ']' :: '>' :: rest => ([], rest)
  | c :: cs =>
    let (content, rest) := sectionContent cs
    (c :: content, rest)

/-- What a bracket begins that is not followed by the name of a tag. Sections of
characters occur only among `foreign` elements. -/
def afterBracket (foreign : Bool) (cs : List Char) : List Token × List Char :=
  match cs with
  | '!' :: '-' :: '-' :: rest =>
    let (token, rest) := comment rest
    ([token], rest)
  | '!' :: rest =>
    if beginsWith "doctype".toList rest then
      let (d, rest) := doctype (rest.drop 7)
      ([.doctype d], rest)
    else if foreign && "[CDATA[".toList.isPrefixOf rest then
      let (content, rest) := sectionContent (rest.drop 7)
      (content.map .char, rest)
    else
      let (token, rest) := shortComment rest
      ([token], rest)
  | '?' :: rest =>
    let (token, rest) := shortComment ('?' :: rest)
    ([token], rest)
  | '/' :: [] => ([.char '<', .char '/'], [])
  | '/' :: '>' :: rest => ([.fault], rest)
  | '/' :: c :: rest =>
    if c.isAlpha then
      match tag? (c :: rest) with
      | some (tag, rest) => ([.closing tag.name], rest)
      | none => ([], [])
    else
      let (token, rest) := shortComment (c :: rest)
      ([token], rest)
  | cs => ([.char '<'], cs)

/-- The tokens of one step in markup. -/
def nextInMarkup (foreign : Bool) (cs : List Char) : List Token × List Char :=
  match cs with
  | [] => ([.finish], [])
  | '<' :: rest =>
    if rest.head?.any Char.isAlpha then
      match tag? rest with
      | some (tag, rest) => ([.opening tag], rest)
      | none => ([], [])
    else afterBracket foreign rest
  | '&' :: rest => ampersandTokens rest
  | c :: rest => ([.char c], rest)

/-- The tokens of one step and the text after them. -/
def Token.next (mode : TextMode) (foreign : Bool) (cs : List Char) : List Token × List Char :=
  match mode with
  | .markup => nextInMarkup foreign cs
  | .references tag =>
    let (content, rest) := untilClosing tag.toList cs
    (referenceTokens content.length content, rest)
  | .raw tag =>
    let (content, rest) := untilClosing tag.toList cs
    (charTokens content, rest)
  | .script =>
    let (content, rest) := scriptContent .none 0 cs
    (charTokens content, rest)
  | .plain => (charTokens cs, [])

/-- A text without a mark of the byte order in front. -/
def withoutMark : List Char → List Char
  | '\ufeff' :: cs => cs
  | cs => cs

/-- A text with one kind of line end. -/
def normalizeLines : List Char → List Char
  | [] => []
  | '\r' :: '\n' :: cs => '\n' :: normalizeLines cs
  | '\r' :: cs => '\n' :: normalizeLines cs
  | c :: cs => c :: normalizeLines cs

/-- The text of a page as it is cut into tokens. -/
def pageText (text : String) : List Char :=
  normalizeLines (withoutMark text.toList)

end Expectation.Html
