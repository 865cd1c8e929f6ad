import ProposalLint.Output.Drawing
import ProposalLint.Output.Plain
import ProposalLint.Output.Record
import ProposalLint.Output.Review

namespace ProposalLint

inductive Format where
  | text
  | json
  | compact
  | review
  | drawing
deriving DecidableEq, Inhabited, Repr

namespace Format

def all : List Format := [text, json, compact, review, drawing]

def name : Format → String
  | text => "text"
  | json => "json"
  | compact => "compact"
  | review => "github"
  | drawing => "fancy"

def ofName? (s : String) : Option Format :=
  all.find? (·.name == s)

end Format

-- Why results cannot be printed.
inductive RenderError where
  -- A document that is to be drawn cannot be read.
  | unreadable (path : String) (cause : FileError)
  -- The place of a message cuts a character of its document, which nothing catches.
  | aborted (path : String)
deriving DecidableEq, Inhabited, Repr

namespace LintResult

def drawMessage (path source : String) (m : Message) : Except RenderError String :=
  match Drawing.render? m path source with
  | some drawing => .ok (drawing ++ "\n")
  | none => .error (.aborted path)

def drawFile (fs : FileSystem) (f : FileResult) : Except RenderError String :=
  if f.isClean then .ok ""
  else match fs.readText f.path with
    | .ok source => (f.messages.mapM (drawMessage f.path source)).map String.join
    | .error cause => .error (.unreadable f.path cause)

-- All messages drawn with their documents.
def renderDrawing (fs : FileSystem) (r : LintResult) : Except RenderError String :=
  (r.files.mapM (drawFile fs)).map String.join

-- The results in one form.
def render (r : LintResult) (fs : FileSystem) (workspace : Option String) :
    Format → Except RenderError String
  | .text => .ok r.renderText
  | .json => .ok r.renderJson
  | .compact => .ok r.renderCompact
  | .review => .ok (r.renderReview workspace)
  | .drawing => r.renderDrawing fs

end LintResult
end ProposalLint
