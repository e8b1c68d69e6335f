import ReviewDesk.Text.Blank

/-!
# Submissions

A reader submits a title and the text of a review.  Both are trimmed and checked
before anything else happens.  They arrive as marks: half of a surrogate pair is a mark
like any other for the checks.
-/

namespace ReviewDesk

open Text

inductive Field where
  | title
  | originalContent
  deriving DecidableEq

inductive Rejection where
  | noTitle
  | longTitle
  | titleCharacter
  | noContent
  | longContent
  deriving DecidableEq

namespace Submission

def maxTitleLength : Nat := 100
def maxContentLength : Nat := 5000

def forbiddenTitleChars : List Char :=
  ['\\', '/', ':', '*', '?', '"', '<', '>', '|', '#', '%']

end Submission

namespace Rejection

def field : Rejection → Field
  | noTitle => .title
  | longTitle => .title
  | titleCharacter => .title
  | noContent => .originalContent
  | longContent => .originalContent

def message : Rejection → String
  | noTitle => "请输入标题"
  | longTitle => s!"标题不能超过 {Submission.maxTitleLength} 个字符"
  | titleCharacter => "标题不能包含 \\ / : * ? \" < > | # % 等字符"
  | noContent => "请输入书评内容"
  | longContent => s!"书评内容不能超过 {Submission.maxContentLength} 个字符"

end Rejection

structure Submission where
  title : List Mark
  content : List Mark
  deriving DecidableEq

namespace Submission

/-!
# Checking
-/

def isForbidden (m : Mark) : Bool :=
  m.char?.any (forbiddenTitleChars.contains ·)

def checkTitle (title : List Mark) : Except Rejection Unit :=
  if title.isEmpty then .error .noTitle
  else if maxTitleLength < title.length then .error .longTitle
  else if title.any isForbidden then .error .titleCharacter
  else .ok ()

def checkContent (content : List Mark) : Except Rejection Unit :=
  if content.isEmpty then .error .noContent
  else if maxContentLength < content.length then .error .longContent
  else .ok ()

/-- A value that was not given counts as an empty text. -/
def validate (title content : Option (List Mark)) : Except Rejection Submission := do
  let title := trim Mark.isBlank (title.getD [])
  let content := trim Mark.isBlank (content.getD [])
  checkTitle title
  checkContent content
  return ⟨title, content⟩

end Submission

end ReviewDesk
