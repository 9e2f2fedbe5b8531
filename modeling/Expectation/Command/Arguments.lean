import Expectation.DocumentError
import Expectation.Options
import Expectation.Report

/-!
# Arguments of the command

The command is called with the name of a format and two documents; settings may
stand anywhere between them. Some settings are known in front of the format and
behind it, others only behind the format they belong to. A setting is given once
at each place, unless it makes up a list.

Two settings can also be given by variables of the environment. A variable is
looked at for each place at which its setting has not been given, so a value
that cannot be read is refused even if the setting is given at the other place.

Arguments are read from left to right, and the first that cannot be read, or
that asks for help, decides.
-/

namespace Expectation.Command

/-! ## Settings -/

/-- What a setting is given with. -/
inductive Kind where
  /-- Nothing; it is on or off. -/
  | flag
  /-- A value that is given once. -/
  | value
  /-- A value of a list. -/
  | values
  deriving DecidableEq, Repr

/-- A setting. -/
structure Setting where
  name : String
  kind : Kind
  short : Option Char := none
  /-- Whether a value can be read. -/
  valid : String → Bool := fun _ => true

/-- The number of bytes that a text spells. -/
def size? (text : String) : Option Nat :=
  let digits := match text.toList with
    | '+' :: cs => cs
    | cs => cs
  if digits.isEmpty || !digits.all Char.isDigit then none
  else
    let n := Binary64.digitsValue digits
    if n < Nat.pow 2 64 then some n else none

/-- The truth value that a text spells. -/
def truth? (text : String) : Option Bool :=
  let word := String.ofList (Text.lowerName text)
  if ["y", "yes", "t", "true", "on", "1"].contains word then some true
  else if ["n", "no", "f", "false", "off", "0"].contains word then some false
  else none

/-- The settings that are known everywhere. -/
def generalSettings : List Setting := [
  { name := "update", kind := .flag },
  { name := "options", kind := .value, valid := fun path => !path.isEmpty },
  { name := "quiet", kind := .flag, short := some 'q' },
  { name := "verbose", kind := .flag, short := some 'v' },
  { name := "max-file-size", kind := .value, valid := fun text => (size? text).isSome },
  { name := "no-color", kind := .flag }]

/-- The settings for JSON documents. -/
def jsonSettings : List Setting := [
  { name := "ignore-field", kind := .values },
  { name := "ignore-array-order", kind := .flag },
  { name := "ignore-array-order-at", kind := .values }]

/-- The settings for pages. -/
def htmlSettings : List Setting := [
  { name := "ignore-comments", kind := .flag },
  { name := "preserve-whitespace", kind := .flag },
  { name := "ignore-child-order", kind := .flag },
  { name := "ignore-child-order-at", kind := .values },
  { name := "ignore-element", kind := .values },
  { name := "ignore-attribute", kind := .values },
  { name := "ignore-attribute-at", kind := .values }]

/-! ## Reading arguments -/

/-- Why the command does not come to compare anything. -/
inductive Stop where
  /-- The arguments cannot be read. -/
  | usage
  /-- Help was asked for. -/
  | help
  /-- The version was asked for. -/
  | version
  deriving DecidableEq, Repr

/-- What has been given at one place: settings with their values, latest first,
and words, latest first. -/
structure Given where
  settings : List (String × String) := []
  words : List String := []
  deriving DecidableEq, Repr

namespace Given

def has (g : Given) (name : String) : Bool := g.settings.any (·.1 == name)

/-- The value of a setting that is given once. -/
def value? (g : Given) (name : String) : Option String :=
  (g.settings.find? (·.1 == name)).map (·.2)

/-- The values of a list, in order. -/
def values (g : Given) (name : String) : List String :=
  ((g.settings.filter (·.1 == name)).map (·.2)).reverse

/-- Adds a setting with its value. -/
def add (g : Given) (s : Setting) (value : String) : Except Stop Given :=
  if s.kind ≠ .values && g.has s.name then .error .usage
  else if !s.valid value then .error .usage
  else .ok { g with settings := (s.name, value) :: g.settings }

/-- Adds a word. There are two at most, and the first is not empty. -/
def addWord (g : Given) (word : String) : Except Stop Given :=
  if 2 ≤ g.words.length || (g.words.isEmpty && word.isEmpty) then .error .usage
  else .ok { g with words := word :: g.words }

/-- Adds several words. -/
def addWords (g : Given) : List String → Except Stop Given
  | [] => .ok g
  | w :: ws =>
    match g.addWord w with
    | .error stop => .error stop
    | .ok g => g.addWords ws

end Given

/-- The form of an argument. -/
inductive Form where
  /-- Only words follow. -/
  | escape
  /-- A setting by its name, perhaps with a value. -/
  | long (name : String) (value : Option String)
  /-- Settings by single letters. -/
  | short (letters : List Char)
  | word
  deriving DecidableEq, Repr

/-- The form of an argument. -/
def formOf (argument : String) : Form :=
  match argument.toList with
  | ['-', '-'] => .escape
  | '-' :: '-' :: cs =>
    match cs.dropWhile (· != '=') with
    | [] => .long (String.ofList cs) none
    | _ :: value => .long (String.ofList (cs.takeWhile (· != '='))) (some (String.ofList value))
  | '-' :: c :: cs => .short (c :: cs)
  | _ => .word

/-- Adds settings by their letters. `root` says whether the version can be asked
for here. -/
def addLetters (settings : List Setting) (root : Bool) (g : Given) :
    List Char → Except Stop Given
  | [] => .ok g
  | c :: cs =>
    if c = 'h' then .error .help
    else if c = 'V' && root then .error .version
    else
      match settings.find? (·.short == some c) with
      | none => .error .usage
      | some s =>
        match g.add s "" with
        | .error stop => .error stop
        | .ok g => addLetters settings root g cs

/-- Reads the arguments at one place. At the `root` the first word ends it, and
is given back with the arguments after it. -/
def readPlace (settings : List Setting) (root : Bool) (g : Given) :
    List String → Except Stop (Given × List String)
  | [] => .ok (g, [])
  | argument :: rest =>
    match formOf argument with
    | .escape =>
      if root then .error .usage else (g.addWords rest).map (·, [])
    | .word =>
      if root then .ok (g, argument :: rest)
      else match g.addWord argument with
        | .error stop => .error stop
        | .ok g => readPlace settings root g rest
    | .short letters =>
      match addLetters settings root g letters with
      | .error stop => .error stop
      | .ok g => readPlace settings root g rest
    | .long name value =>
      if name = "help" && value.isNone then .error .help
      else if name = "version" && value.isNone && root then .error .version
      else
        match settings.find? (·.name == name) with
        | none => .error .usage
        | some s =>
          match s.kind, value, rest with
          | .flag, some _, _ => .error .usage
          | .flag, none, rest =>
            match g.add s "" with
            | .error stop => .error stop
            | .ok g => readPlace settings root g rest
          | _, some value, rest =>
            match g.add s value with
            | .error stop => .error stop
            | .ok g => readPlace settings root g rest
          | _, none, value :: rest =>
            if formOf value ≠ .word then .error .usage
            else match g.add s value with
              | .error stop => .error stop
              | .ok g => readPlace settings root g rest
          | _, none, [] => .error .usage

/-! ## The call -/

/-- The variables of the environment. -/
abbrev Environment := List (String × String)

/-- The value of a variable. -/
def environmentValue? (env : Environment) (name : String) : Option String :=
  (env.find? (·.1 == name)).map (·.2)

/-- A call of the command. -/
structure Call where
  format : Format
  expected : String
  actual : String
  /-- The options given by settings. -/
  options : Options
  /-- The options file. -/
  optionsFile : Option String
  update : Bool
  quiet : Bool
  verbose : Bool
  noColor : Bool
  /-- The greatest size of a file. -/
  sizeLimit : Nat
  deriving DecidableEq, Repr

/-- The greatest size of a file unless another is given. -/
def defaultSizeLimit : Nat := 268435456

/-- The value of a setting that is given at a place or by a variable; there is
a failure if the variable cannot be read. -/
def fromVariable {α : Type} (env : Environment) (name : String) (read : String → Option α)
    (given : Option α) : Except Stop (Option α) :=
  match given, environmentValue? env name with
  | some a, _ => .ok (some a)
  | none, none => .ok none
  | none, some text =>
    match read text with
    | some a => .ok (some a)
    | none => .error .usage

/-- The value of a setting known at both places: the inner place counts before
the outer one, and both before the variable. -/
def general {α : Type} (env : Environment) (name : String) (read : String → Option α)
    (outer inner : Option α) : Except Stop (Option α) :=
  match fromVariable env name read inner, fromVariable env name read outer with
  | .error stop, _ => .error stop
  | _, .error stop => .error stop
  | .ok i, .ok _ => .ok (inner <|> outer <|> i)

/-- The options that the settings for JSON documents make up. -/
def jsonOptions (g : Given) : Json.Options where
  ignoreArrayOrder := g.has "ignore-array-order"
  ignoreArrayOrderPaths := g.values "ignore-array-order-at"
  ignoredFields := g.values "ignore-field"

/-- The options that the settings for pages make up. -/
def htmlOptions (g : Given) : Html.Options where
  ignoreComments := g.has "ignore-comments"
  preserveWhitespace := g.has "preserve-whitespace"
  ignoreChildOrder := g.has "ignore-child-order"
  ignoreChildOrderPaths := g.values "ignore-child-order-at"
  ignoredElements := g.values "ignore-element"
  ignoredAttributes := g.values "ignore-attribute"
  ignoredAttributePaths := g.values "ignore-attribute-at"

/-- The call that is given in front of the format and behind it. -/
def callOf (env : Environment) (format : Format) (outer inner : Given) : Except Stop Call :=
  let flag (g : Given) (name : String) : Option Bool := if g.has name then some true else none
  let either (name : String) : Bool := outer.has name || inner.has name
  let clash (g : Given) : Bool := g.has "quiet" && g.has "verbose"
  match inner.words with
  | [actual, expected] =>
    if clash outer || clash inner then .error .usage
    else
      match general env "DOCMATCH_UPDATE" truth? (flag outer "update") (flag inner "update"),
        general env "DOCMATCH_MAX_FILE_SIZE" size? ((outer.value? "max-file-size").bind size?)
          ((inner.value? "max-file-size").bind size?) with
      | .ok update, .ok limit =>
        .ok {
          format, expected, actual
          options := ⟨jsonOptions inner, htmlOptions inner⟩
          optionsFile := inner.value? "options" <|> outer.value? "options"
          update := update.getD false
          quiet := either "quiet"
          verbose := either "verbose"
          noColor := either "no-color"
          sizeLimit := limit.getD defaultSizeLimit }
      | _, _ => .error .usage
  | _ => .error .usage

/-- Reads the arguments behind the name of a format. -/
def readFormat (env : Environment) (format : Format) (settings : List Setting) (outer : Given)
    (rest : List String) : Except Stop Call :=
  match readPlace (generalSettings ++ settings) false {} rest with
  | .error stop => .error stop
  | .ok (inner, _) => callOf env format outer inner

/-- The call that arguments and variables describe. -/
def Call.ofArguments (arguments : List String) (env : Environment) : Except Stop Call :=
  match readPlace generalSettings true {} arguments with
  | .error stop => .error stop
  | .ok (outer, rest) =>
    match rest with
    | "json" :: rest => readFormat env .json jsonSettings outer rest
    | "html" :: rest => readFormat env .html htmlSettings outer rest
    | ["help"] => .error .help
    | ["help", name] =>
      .error (if ["json", "html", "help"].contains name then .help else .usage)
    | _ => .error .usage

/-- The colours of the output of a call, which never goes to a terminal: they
have to be asked for by a variable, and can be forbidden. -/
def paletteOf (call : Call) (env : Environment) : Report.Palette where
  colors := !call.noColor && (environmentValue? env "NO_COLOR").isNone &&
    (environmentValue? env "FORCE_COLOR").isSome

end Expectation.Command
