import Stencil.Text.Blank
import Stencil.Text.Quoted
import Stencil.Text.Word

/-!
# Configuration

The names and the formatting of a generated module. A configuration is checked before it is used:
the names are identifiers, the module of the markup parser has a name, and the indentation is blank.
-/

namespace Stencil

open Text

structure Config where
  functionName : Text := "tpl".toList
  contextParam : Text := "it".toList
  contextType : Text := "any".toList
  parserName : Text := "parseHtml".toList
  parserModule : Text := "html-react-parser".toList
  indent : Text := "    ".toList
deriving DecidableEq

inductive ConfigFault where
  | notIdentifier (field value : Text)
  | namelessModule
  | visibleIndent
deriving DecidableEq

def ConfigFault.message : ConfigFault → Text
  | .notIdentifier field value =>
    field ++ " must be a valid identifier, got ".toList ++ quoted value
  | .namelessModule => "markup_parser_module cannot be empty".toList
  | .visibleIndent => "indent must only contain whitespace".toList

namespace Config

/-- Characters that an identifier begins with. -/
def isInitial (c : Char) : Bool :=
  ('A' ≤ c && c ≤ 'Z') || ('a' ≤ c && c ≤ 'z') || c = '_' || c = '$'

/-- Whether the text is an identifier, perhaps with one line feed after it. -/
def isIdentifier : Text → Bool
  | [] => false
  | c :: cs =>
    let rest := cs.dropWhile fun c => isWord c || c = '$'
    isInitial c && (rest = [] || rest = ['\n'])

/-- The first fault of a configuration. -/
def fault? (c : Config) : Option ConfigFault :=
  if !isIdentifier c.functionName then
    some (.notIdentifier "function_name".toList c.functionName)
  else if !isIdentifier c.contextParam then
    some (.notIdentifier "context_param".toList c.contextParam)
  else if !isIdentifier c.parserName then
    some (.notIdentifier "markup_parser_name".toList c.parserName)
  else if allBlank c.parserModule then some .namelessModule
  else if !allBlank c.indent then some .visibleIndent
  else none

/-- The statement that imports the markup parser. -/
def parserImport (c : Config) : Text :=
  "import ".toList ++ c.parserName ++ " from \"".toList ++ c.parserModule ++ "\";".toList

/-- The parameter list of the generated function. -/
def parameters (c : Config) : Text :=
  if c.contextType.isEmpty then c.contextParam else c.contextParam ++ ": ".toList ++ c.contextType

end Config

end Stencil
