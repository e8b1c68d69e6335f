import ReviewDesk.Text.Blank

/-!
# Reasoning in a reply

Some models write their reasoning into the reply, between tags.  A block that is
closed is removed with what it holds, a tag that stands alone is removed by itself,
long runs of empty lines are shortened, and the ends are trimmed.
-/

namespace ReviewDesk
namespace Reasoning

open Text

/-!
# Tags
-/

def tagNames : List (List Mark) :=
  ["think", "thinking"]

def openTag (name : List Mark) : List Mark :=
  .char '<' :: name ++ [.char '>']

def closeTag (name : List Mark) : List Mark :=
  .char '<' :: .char '/' :: name ++ [.char '>']

def after? (sign cs : List Mark) : Option (List Mark) :=
  if sign.isPrefixOf cs then some (cs.drop sign.length) else none

def afterFirst? (sign : List Mark) : List Mark → Option (List Mark)
  | [] => after? sign []
  | c :: cs => (after? sign (c :: cs)).orElse fun _ => afterFirst? sign cs

/-!
# Blocks

A block runs from an opening tag to the first closing tag of the same name.
-/

def afterBlock? (cs : List Mark) : Option (List Mark) :=
  tagNames.findSome? fun name =>
    (after? (openTag name) cs).bind (afterFirst? (closeTag name))

/-- Removes the blocks from left to right; `fuel` is the length of the text. -/
def dropBlocksFrom : Nat → List Mark → List Mark
  | 0, cs => cs
  | _, [] => []
  | fuel + 1, c :: cs =>
      match afterBlock? (c :: cs) with
      | some rest => dropBlocksFrom fuel rest
      | none => c :: dropBlocksFrom fuel cs

def dropBlocks (cs : List Mark) : List Mark :=
  dropBlocksFrom cs.length cs

/-!
# Stray tags
-/

def afterTag? (cs : List Mark) : Option (List Mark) :=
  tagNames.findSome? fun name =>
    (after? (openTag name) cs).orElse fun _ => after? (closeTag name) cs

def dropTagsFrom : Nat → List Mark → List Mark
  | 0, cs => cs
  | _, [] => []
  | fuel + 1, c :: cs =>
      match afterTag? (c :: cs) with
      | some rest => dropTagsFrom fuel rest
      | none => c :: dropTagsFrom fuel cs

def dropTags (cs : List Mark) : List Mark :=
  dropTagsFrom cs.length cs

/-!
# Empty lines
-/

/-- Shortens every run of line ends to at most two; `run` counts the line ends just
before the text. -/
def shortenLines : Nat → List Mark → List Mark
  | _, [] => []
  | run, c :: cs =>
      if c = .char '\n' then
        (if run < 2 then [.char '\n'] else []) ++ shortenLines (run + 1) cs
      else c :: shortenLines 0 cs

/-!
# Cleaning
-/

def clean (cs : List Mark) : List Mark :=
  trim Mark.isBlank (shortenLines 0 (dropTags (dropBlocks cs)))

end Reasoning
end ReviewDesk
