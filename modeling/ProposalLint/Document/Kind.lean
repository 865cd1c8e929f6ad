namespace ProposalLint

inductive Kind where
  | root
  | yaml
  | heading
  | paragraph
  | text
  | emphasis
  | strong
  | delete
  | inlineCode
  | code
  | html
  | link
  | image
  | definition
  | blockquote
  | list
  | listItem
  | table
  | tableRow
  | tableCell
  | «break»
  | thematicBreak
  | footnoteDefinition
  | footnoteReference
  | other (name : String)
deriving DecidableEq, Inhabited, Repr

namespace Kind

def name : Kind → String
  | root => "root"
  | yaml => "yaml"
  | heading => "heading"
  | paragraph => "paragraph"
  | text => "text"
  | emphasis => "emphasis"
  | strong => "strong"
  | delete => "delete"
  | inlineCode => "inlineCode"
  | code => "code"
  | html => "html"
  | link => "link"
  | image => "image"
  | definition => "definition"
  | blockquote => "blockquote"
  | list => "list"
  | listItem => "listItem"
  | table => "table"
  | tableRow => "tableRow"
  | tableCell => "tableCell"
  | «break» => "break"
  | thematicBreak => "thematicBreak"
  | footnoteDefinition => "footnoteDefinition"
  | footnoteReference => "footnoteReference"
  | other name => name

-- Every kind that has a name of its own.
def known : List Kind := [
  root, yaml, heading, paragraph, text, emphasis, strong, delete, inlineCode, code, html, link,
  image, definition, blockquote, list, listItem, table, tableRow, tableCell, «break»,
  thematicBreak, footnoteDefinition, footnoteReference
]

-- Names without a kind of their own are carried by `other`.
def ofName (name : String) : Kind :=
  known.find? (·.name == name) |>.getD (other name)

def isOther : Kind → Bool
  | other _ => true
  | _ => false

-- Nodes of these kinds have a list of children even when it is empty.
def isParent : Kind → Bool
  | root | heading | paragraph | emphasis | strong | delete | link | blockquote | list | listItem
  | table | tableRow | tableCell | footnoteDefinition => true
  | _ => false

-- Inline content: inside a list item it belongs in a paragraph.
def isPhrasing : Kind → Bool
  | text | emphasis | strong | delete | inlineCode | link | image | «break»
  | footnoteReference => true
  | _ => false

end Kind
end ProposalLint
