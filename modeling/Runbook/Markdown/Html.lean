import Runbook.Markdown.Line
/-!
# Blocks of markup

Markup that starts a line makes a block of its own, whose text is not Markdown. There are three
families. A block that starts with one of a few openings runs to the line that holds the closing
of that opening, `closingOf?`. A block that starts with the tag of a block element runs to the
next blank line, and so does one that starts with any other complete tag alone on its line; the
last cannot interrupt a paragraph.

All functions look at a text that starts with the angle bracket.
-/

set_option autoImplicit false

namespace Runbook.Markdown.Html

/-- Whether a text starts with a word, whatever the case of its ASCII letters, and the text after
the word. -/
def afterWord? (word : String) (text : List Char) : Option (List Char) :=
  let length := word.toList.length
  if (text.take length).map Char.toLower == word.toList then some (text.drop length) else none

/-- The elements whose text is taken as it stands, with their closing tags. -/
def verbatimElements : List (String × String) :=
  [("pre", "</pre>"), ("style", "</style>"), ("script", "</script>"), ("textarea", "</textarea>")]

/-- The openings of comments, instructions and character data, with their closings. -/
def otherOpenings : List (String × String) :=
  [("!--", "-->"), ("?", "?>"), ("![CDATA[", "]]>")]

/-- What ends the block that the text after an angle bracket starts, if it is one that runs to a
closing of its own. -/
def closingOf? (text : List Char) : Option String :=
  let element := verbatimElements.find? fun entry =>
    match afterWord? entry.1 text with
    | some rest => rest.head?.all fun c => isAsciiBlank c || c == '>'
    | none => false
  let opening := otherOpenings.find? fun entry => startsWith text entry.1.toList
  match element, opening with
  | some entry, _ => some entry.2
  | none, some entry => some entry.2
  | none, none =>
    match text with
    | '!' :: c :: _ => if c.isAlpha then some ">" else none
    | _ => none

/-- The names of block elements. -/
def blockElements : List String :=
  ["address", "article", "aside", "base", "basefont", "blockquote", "body", "caption", "center",
    "col", "colgroup", "dd", "details", "dialog", "dir", "div", "dl", "dt", "fieldset",
    "figcaption", "figure", "footer", "form", "frame", "frameset", "h1", "h2", "h3", "h4", "h5",
    "h6", "head", "header", "hr", "html", "iframe", "legend", "li", "link", "main", "menu",
    "menuitem", "nav", "noframes", "ol", "optgroup", "option", "p", "param", "search", "section",
    "summary", "table", "tbody", "td", "tfoot", "th", "thead", "title", "tr", "track", "ul"]

/-- Whether the text after an angle bracket is the tag of a block element. -/
def startsBlockElement (text : List Char) : Bool :=
  let tail := (after? ['/'] text).getD text
  let name := (tail.takeWhile Char.isAlphanum).map Char.toLower
  let rest := tail.dropWhile Char.isAlphanum
  let ended := rest.head?.all fun c => c == ' ' || c == '\t' || c == '\r' || c == '\n' || c == '>'
  blockElements.contains (String.ofList name) && (ended || startsWith rest ['/', '>'])

/-- The text after the value of an attribute, which stays on its line. -/
def attributeValue? : List Char → Option (List Char)
  | [] => none
  | c :: rest =>
    if c == '"' || c == '\'' then
      match rest.dropWhile fun d => d != c && d != '\n' && d != '\r' with
      | d :: after => if d == c then some after else none
      | [] => none
    else if " =><`\n\r".toList.contains c then none
    else some ((c :: rest).dropWhile fun d => !(" \t\n\r\x0b\x0c=><`'\"".toList.contains d))

/-- The text after an attribute, with its value if it has one. -/
def attribute? (text : List Char) : Option (List Char) :=
  match text with
  | [] => none
  | c :: rest =>
    if c.isAlpha || c == '_' || c == ':' then
      let after := rest.dropWhile fun d => d.isAlphanum || "_.:-".toList.contains d
      let spaced := skipInlineBlanks after
      if atLineEnd spaced && !spaced.isEmpty then none
      else
        match spaced with
        | '=' :: value =>
          let value := skipInlineBlanks value
          if atLineEnd value then none else attributeValue? value
        | _ => some after
    else none

/-- The text after the attributes of a tag, each of which follows a blank: the closing bracket or
the slash before it. -/
def attributes? : Nat → List Char → Option (List Char)
  | 0, _ => none
  | fuel + 1, text =>
    let spaced := skipInlineBlanks text
    if atLineEnd spaced then none
    else if spaced.head? == some '/' || spaced.head? == some '>' then some spaced
    else if spaced.length == text.length then none
    else (attribute? spaced).bind (attributes? fuel)

/-- The text after a complete tag that starts after the angle bracket. -/
def afterTag? (text : List Char) : Option (List Char) := do
  let closing := text.head? == some '/'
  let name := if closing then text.drop 1 else text
  if !(name.head?.any Char.isAlpha) then none
  let afterName := name.dropWhile fun c => c.isAlphanum || c == '-'
  let rest ← if closing then some afterName else attributes? (text.length + 1) afterName
  let rest := skipInlineBlanks rest
  let rest := if closing then rest else (after? ['/'] rest).getD rest
  after? ['>'] rest

/-- Whether the text after an angle bracket is a complete tag alone on its line. -/
def isLoneTag (text : List Char) : Bool :=
  match afterTag? text with
  | some rest => (blankLine? rest).isSome
  | none => false

end Runbook.Markdown.Html
