import Expectation.Html.Options
import Expectation.Json.Options
import Expectation.Json.Record

/-!
# Options in files

The options of a comparison can be kept in a file: a JSON text with a record
for each document format. This module knows the names under which the options
are written, and the order in which they stand in a record that is written as an
array.
-/

namespace Expectation

namespace Json.Options

/-- The names of the options for JSON documents. -/
def fields : List (Field Options) :=
  [.of "ignore_array_order" readFlag fun o b => { o with ignoreArrayOrder := b },
    .of "ignore_array_order_paths" readTexts fun o ts => { o with ignoreArrayOrderPaths := ts },
    .of "ignored_fields" readTexts fun o ts => { o with ignoredFields := ts }]

/-- The options with others on top: what either leaves out is left out. -/
def extend (o more : Options) : Options where
  ignoreArrayOrder := o.ignoreArrayOrder || more.ignoreArrayOrder
  ignoreArrayOrderPaths := o.ignoreArrayOrderPaths ++ more.ignoreArrayOrderPaths
  ignoredFields := o.ignoredFields ++ more.ignoredFields

/-- The options for JSON documents, as far as they are written. -/
def reader (o : Options) : Reader Options := readRecord "JsonConfig" fields o

end Json.Options

namespace Html.Options

open Json (Reader readFlag readTexts)

/-- The names of the options for pages. -/
def fields : List (Json.Field Options) :=
  [.of "ignore_comments" readFlag fun o b => { o with ignoreComments := b },
    .of "preserve_whitespace" readFlag fun o b => { o with preserveWhitespace := b },
    .of "ignore_child_order" readFlag fun o b => { o with ignoreChildOrder := b },
    .of "ignore_child_order_paths" readTexts fun o ts => { o with ignoreChildOrderPaths := ts },
    .of "ignored_elements" readTexts fun o ts => { o with ignoredElements := ts },
    .of "ignored_attributes" readTexts fun o ts => { o with ignoredAttributes := ts },
    .of "ignored_attribute_paths" readTexts fun o ts => { o with ignoredAttributePaths := ts }]

/-- The options with others on top: what either leaves out is left out. -/
def extend (o more : Options) : Options where
  ignoreComments := o.ignoreComments || more.ignoreComments
  preserveWhitespace := o.preserveWhitespace || more.preserveWhitespace
  ignoreChildOrder := o.ignoreChildOrder || more.ignoreChildOrder
  ignoreChildOrderPaths := o.ignoreChildOrderPaths ++ more.ignoreChildOrderPaths
  ignoredElements := o.ignoredElements ++ more.ignoredElements
  ignoredAttributes := o.ignoredAttributes ++ more.ignoredAttributes
  ignoredAttributePaths := o.ignoredAttributePaths ++ more.ignoredAttributePaths

/-- The options for pages, as far as they are written. -/
def reader (o : Options) : Reader Options := Json.readRecord "HtmlConfig" fields o

end Html.Options

/-- The options for both document formats. -/
structure Options where
  json : Json.Options := {}
  html : Html.Options := {}
  deriving DecidableEq, Repr

namespace Options

/-- The names of the two parts of an options file. -/
def fields : List (Json.Field Options) :=
  [⟨"json", fun o cs => (o.json.reader cs).map fun (j, rest) => ({ o with json := j }, rest)⟩,
    ⟨"html", fun o cs => (o.html.reader cs).map fun (h, rest) => ({ o with html := h }, rest)⟩]

/-- The options with others on top. -/
def extend (o more : Options) : Options := ⟨o.json.extend more.json, o.html.extend more.html⟩

/-- The options that the text of a file spells. -/
def ofText (text : String) : Except Json.Located Options :=
  Json.readWhole (Json.readRecord "Options" fields {}) text

end Options

end Expectation
