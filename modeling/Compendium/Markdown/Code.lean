import Compendium.Text.Basic

/-!
# Code spans and code blocks

A run of backticks ends a code span only if it is as long as the run that opened
it, and a code block only if it is at least as long.  Delimiters are therefore
one longer than any run inside.
-/

namespace Compendium.Markdown

/-- The backtick. -/
def tick : Char := '\x60'

/-- The number of fence characters that no run inside the content reaches; at
least three. -/
def fenceLength (fence : Char) (content : String) : Nat :=
  max (Chars.longestRun fence content.toList) 2 + 1

/-- The number of backticks that no run inside the content reaches. -/
def tickCount (content : String) : Nat :=
  Chars.longestRun tick content.toList + 1

/-- Content as a code span; a space keeps a backtick at either end apart from
the delimiters. -/
def codeSpan (content : String) : String :=
  if content.isEmpty then ""
  else
    let ticks := Text.replicate (tickCount content) tick
    let gap := if content.toList.head? = some tick || content.toList.getLast? = some tick then " "
      else ""
    ticks ++ gap ++ content ++ gap ++ ticks

/-- Content as a fenced code block, without its last line ends. -/
def codeBlock (content : String) : String :=
  let fence := Text.replicate (fenceLength tick content) tick
  fence ++ "\n" ++ Text.dropEndWhile (· = '\n') content ++ "\n" ++ fence

end Compendium.Markdown
