import GravitPanel.Core.JavaScript
import GravitPanel.Core.TextEdits
import GravitPanel.Core.Words

/-!
# Options of the Java process

`ensureLaunchServerJvmCompatibility` of `launcherdockered.service.ts` on the
text of the environment file, and how Docker Compose reads the text: the last
assignment counts, and one pair of quotes around its value is taken off.
-/

namespace GravitPanel.LauncherDockered

open JavaScript TextEdits Words

def fileAuthJvmOption : Text :=
  "--add-opens=java.base/java.time=com.google.gson".toList

def launchServerHttpTimeoutJvmOption : Text :=
  "-Dlauncher.httpTimeout=30000".toList

def requiredLaunchServerJvmOptions : List Text :=
  [fileAuthJvmOption, launchServerHttpTimeoutJvmOption]

def javaOptsKey : Text := "JAVA_OPTS=".toList

/-- `line.startsWith('JAVA_OPTS=')`. -/
def isOptionsLine (line : Text) : Bool :=
  javaOptsKey.isPrefixOf line

/-- The text behind the equals sign, trimmed. -/
def assignedValue (line : Text) : Text :=
  trimChars (line.drop javaOptsKey.length)

/-- `split(/\s+/).filter(Boolean)`. -/
def optionWords (value : Text) : List Text :=
  words (fun character => !isWhiteSpace character) value

def optionsLine (options : List Text) : Text :=
  javaOptsKey ++ joinWords ' ' options

/-- The options of the first line that assigns them. -/
def currentOptions (lines : List Text) : List Text :=
  match lines.find? isOptionsLine with
  | some line => optionWords (assignedValue line)
  | none => []

def missingOptions (lines : List Text) : List Text :=
  requiredLaunchServerJvmOptions.filter fun option =>
    !(currentOptions lines).contains option

/-- The new line goes before an empty line at the end. -/
def insertAtEnd (line : Text) (lines : List Text) : List Text :=
  if lines.getLast? = some [] then lines.dropLast ++ [line, []]
  else lines ++ [line]

/-- `replace(/\n*$/, '')` and one line break. -/
def withOneLineBreak (text : Text) : Text :=
  text.rdropWhile (· = '\n') ++ ['\n']

/-- The text that is written, unless no option is missing. -/
def ensureLaunchServerJvmCompatibility (contents : Text) : Option Text :=
  let lines := splitLines contents
  if missingOptions lines = [] then
    none
  else
    let edited :=
      match setFirst isOptionsLine
          (optionsLine (currentOptions lines ++ missingOptions lines)) lines with
      | some next => next
      | none =>
          insertAtEnd (optionsLine requiredLaunchServerJvmOptions) lines
    some (withOneLineBreak (joinLines edited))

/-- The environment file afterwards. -/
def compatibleText (contents : Text) : Text :=
  (ensureLaunchServerJvmCompatibility contents).getD contents

def isQuote (character : Char) : Bool :=
  character = '"' || character = '\''

def assignedValues (text : Text) : List Text :=
  ((text.splitOn '\n').filter isOptionsLine).map assignedValue

/-- The value of the last assignment, which is empty if there is none. -/
def effectiveValue (text : Text) : Text :=
  (assignedValues text).getLastD []

/-- A value without one pair of quotes around it. -/
def unquoted : Text → Text
  | [] => []
  | first :: rest =>
      if isQuote first ∧ rest.getLast? = some first then rest.dropLast
      else first :: rest

def effectiveOptions (text : Text) : List Text :=
  optionWords (unquoted (effectiveValue text))

/-- A quote at the beginning is closed at the end and not before; quotes
elsewhere are even in number. -/
def quotesBalanced : Text → Bool
  | [] => true
  | first :: rest =>
      if isQuote first then
        rest.getLast? = some first && !rest.dropLast.contains first
      else
        (first :: rest).count '"' % 2 = 0 &&
          (first :: rest).count '\'' % 2 = 0

/-- The lines that are not blank, without the first assignment of the options
and without carriage returns at their ends. -/
def otherLines (text : Text) : List Text :=
  (((text.splitOn '\n').map trimReturns).eraseP isOptionsLine).filter
    fun line => line.any fun character => !isWhiteSpace character

end GravitPanel.LauncherDockered
