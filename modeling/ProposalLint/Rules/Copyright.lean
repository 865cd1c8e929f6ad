import ProposalLint.Engine.Rule

namespace ProposalLint.Rules

def isText (text : String) (n : Node) : Bool :=
  n.kind = .text && n.value = some text

-- Whether the first children of a node pass the given tests, one each.
def startsWith (tests : List (Node → Bool)) (n : Node) : Bool :=
  tests.length ≤ n.children.length && (n.children.zip tests).all fun (child, test) => test child

def isCopyrightHeading (n : Node) : Bool :=
  n.kind = .heading && n.depth = some 2 && startsWith [isText "Copyright"] n

def isLicenceLink (n : Node) : Bool :=
  n.kind = .link && n.url = some "../LICENSE" && startsWith [isText "CC0"] n

def isWaiver (n : Node) : Bool :=
  n.kind = .paragraph
    && startsWith [isText "Copyright and related rights waived via ", isLicenceLink] n

-- Whether the last two of some blocks are the heading and the waiver.
def endsWithWaiver (blocks : List Node) : Bool :=
  match blocks.reverse with
  | waiver :: heading :: _ => isCopyrightHeading heading && isWaiver waiver
  | _ => false

def copyright : Rule :=
  .single "copyright" "Document must end with the CC0 copyright postamble" "root" ()
    fun _ root => do
      if !endsWithWaiver root.node.children then
        Action.report root.node "No copyright postamble found or is malformed"

end ProposalLint.Rules
