/-
The words in a module's text that decide whether it is opened.

Both questions are about the text alone, so they can be asked before the text is
read, and of a text that cannot be read at all.
-/
import Standin.Text.Pattern

set_option autoImplicit false

namespace Standin

open Text (Pattern isWord)

/-- The name whose declaration opts a module in. -/
def markerName : String := "mockingbird"

/-- The word that keeps a module as it is. -/
def ignoreWord : String := "mockingbird-ignore"

namespace Trigger

/-- A blank within a line. -/
def isInlineBlank (c : Char) : Bool := c == ' ' || c == '\t'

/-- A character that an annotation may hold: not the sign of a value, a comment or a further
statement, nor the end of the line. -/
def isAnnotationChar (c : Char) : Bool := !(c == '=' || c == '\n' || c == '#' || c == ';')

/-- A character that ends what a line declares. -/
def isTail (c : Char) : Bool := c == ';' || c == '#'

/-- Any character but the end of a line. -/
def onLine (c : Char) : Bool := c != '\n'

/-- An equals sign that does not begin a comparison, and the rest of the line. -/
def valuePattern : Pattern :=
  .all [.one (· == '='), .notNext (· == '='), .run onLine]

/-- The declaration of the marker at the start of a line, annotated or given a value, up to the end
of the line. -/
def markerPattern : Pattern :=
  .all [.lineStart, .text markerName.toList, .run isInlineBlank,
    .either
      (.all [.one (· == ':'), .one isAnnotationChar, .run isAnnotationChar, .maybe valuePattern])
      valuePattern,
    .run isInlineBlank, .maybe (.seq (.one isTail) (.run onLine)), .lineEnd]

/-- The ignore word as a word of its own. -/
def ignoreWordPattern : Pattern :=
  .all [.notAfter (fun c => isWord c || c == '-'), .text ignoreWord.toList, .boundary]

end Trigger

/-- Whether the text declares the marker at the start of a line. -/
def optsIn (source : String) : Bool := Trigger.markerPattern.occursIn source

/-- Whether the ignore word occurs anywhere in the text. -/
def optsOut (source : String) : Bool := Trigger.ignoreWordPattern.occursIn source

/-- Whether the module of this text is to be opened: it opts in, and the ignore word, which wins,
does not occur. -/
def asksToOpen (source : String) : Bool := optsIn source && !optsOut source

end Standin
