import Stencil.Build
import Stencil.Cli.Options
import Stencil.Node.Outline
import Stencil.Text.Layout
import Stencil.Text.Styled

/-!
# The command line

Three commands: `compile` prints or writes the component of one template, `ast` shows the tree of a
template, and `build` compiles a directory. A request is read from the arguments first, then checked
against the files it names, and only then carried out.

Every run ends with a status and what it prints: 0 for success, 1 for a template that could not be
compiled or a file that could not be written, 2 for a request that makes no sense.
-/

namespace Stencil.Cli

open Text

def programName : Text := "dotjsx".toList

def version : Text := "0.1.0".toList

/-! ## Requests -/

inductive Request where
  | version
  | help
  | compile (template : Text) (output : Option Text) (config : Config)
  | ast (template : Text)
  | build (source : Text) (output : Option Text) (pattern : Text)

inductive UsageFault where
  | option (fault : OptionFault)
  | missingCommand
  | unknownCommand (name : Text)
  | missingArgument (name : String)
  | extraArgument (argument : Text)
  | config (fault : ConfigFault)
  | unreadable (path : Text)
  | notFile (path : Text)
  | notDirectory (path : Text)

def UsageFault.message : UsageFault → Text
  | .option fault => fault.message
  | .missingCommand => "Missing command.".toList
  | .unknownCommand name => "No such command: ".toList ++ name
  | .missingArgument name => "Missing argument: ".toList ++ name.toList
  | .extraArgument argument => "Got unexpected extra argument: ".toList ++ argument
  | .config fault => fault.message
  | .unreadable path => "Cannot open file: ".toList ++ path
  | .notFile path => "Not a file: ".toList ++ path
  | .notDirectory path => "Not a directory: ".toList ++ path

def helpSwitch : Switch := ⟨"help".toList, none, false⟩

def globalSwitches : List Switch :=
  [⟨"version".toList, none, false⟩, ⟨"verbose".toList, some 'v', false⟩, helpSwitch]

def compileSwitches : List Switch :=
  [⟨"output".toList, some 'o', true⟩, ⟨"function-name".toList, none, true⟩,
   ⟨"context-param".toList, none, true⟩, ⟨"context-type".toList, none, true⟩, helpSwitch]

def buildSwitches : List Switch :=
  [⟨"out-dir".toList, none, true⟩, ⟨"pattern".toList, none, true⟩, helpSwitch]

def arguments (switches : List Switch) (mixed : Bool) (args : List Text) :
    Except UsageFault Arguments :=
  match readArguments switches mixed none args with
  | .ok a => .ok a
  | .error fault => .error (.option fault)

/-- The only operand of a command. -/
def operand (name : String) : List Text → Except UsageFault Text
  | [] => .error (.missingArgument name)
  | [value] => .ok value
  | _ :: extra :: _ => .error (.extraArgument extra)

/-- The request of a `compile` command. -/
def compileRequest (args : List Text) : Except UsageFault Request := do
  let a ← arguments compileSwitches true args
  if a.has "help" then .ok .help
  else
    let template ← operand "TEMPLATE" a.operands
    let base : Config := {}
    .ok (.compile template (a.value? "output")
      { functionName := (a.value? "function-name").getD base.functionName
        contextParam := (a.value? "context-param").getD base.contextParam
        contextType := (a.value? "context-type").getD base.contextType })

/-- The request of an `ast` command. -/
def astRequest (args : List Text) : Except UsageFault Request := do
  let a ← arguments [helpSwitch] true args
  if a.has "help" then .ok .help
  else
    let template ← operand "TEMPLATE" a.operands
    .ok (.ast template)

/-- The request of a `build` command. -/
def buildRequest (args : List Text) : Except UsageFault Request := do
  let a ← arguments buildSwitches true args
  if a.has "help" then .ok .help
  else
    let source ← operand "SRC_DIR" a.operands
    .ok (.build source (a.value? "out-dir") ((a.value? "pattern").getD "*.dot".toList))

/-- The request that the arguments make. -/
def request (args : List Text) : Except UsageFault Request := do
  let a ← arguments globalSwitches false args
  if a.has "version" then .ok .version
  else if a.has "help" then .ok .help
  else
    match a.operands with
    | [] => .error .missingCommand
    | command :: rest =>
      if command = "compile".toList then compileRequest rest
      else if command = "ast".toList then astRequest rest
      else if command = "build".toList then buildRequest rest
      else do
        -- Two hyphens in front may have kept options from being read as such.
        let a ← arguments globalSwitches false (command :: rest)
        if a.has "version" then .ok .version
        else if a.has "help" then .ok .help
        else .error (.unknownCommand command)

/-- The files and directories that a request names. A pattern can lead out of its directory by two
dots, at most as often as it has them. -/
def Request.paths : Request → List Path
  | .version | .help => []
  | .compile template output _ => (template :: output.toList).map Path.ofText
  | .ast template => [Path.ofText template]
  | .build source output pattern =>
    let source := Path.ofText source
    let outermost := source ++ (Path.ofText pattern).filter (· = Path.dots)
    source :: outermost :: output.toList.map Path.ofText

/-! ## Outcomes -/

/-- A message on the error output, perhaps with a title. -/
structure Notice where
  title : Option Text
  body : Text
deriving DecidableEq

structure Outcome where
  status : Nat
  output : Text
  notices : List Notice
  /-- What ended the run before its time. -/
  crash : Option Build.Error
  /-- The files that are left. -/
  tree : FileTree

namespace Outcome

def success (tree : FileTree) (output : Text) : Outcome := ⟨0, output, [], none, tree⟩

def failure (tree : FileTree) (report : Report) : Outcome :=
  ⟨1, [], [⟨some report.kind.title, report.format⟩], none, tree⟩

def misuse (tree : FileTree) (fault : UsageFault) : Outcome :=
  ⟨2, [], [⟨some "Error".toList, fault.message⟩], none, tree⟩

def crashed (tree : FileTree) (output : Text) (error : Build.Error) : Outcome :=
  ⟨1, output, [], some error, tree⟩

end Outcome

/-! ## Running -/

/-- What a run finds: the files, and the text on standard input. -/
structure Environment where
  tree : FileTree
  input : Text

/-- The hyphen that names standard input. -/
def standardInput : Text := ['-']

/-- Whether a text can name a file: its last part names something. -/
def canNameFile (t : Text) : Bool :=
  match (splitOn '/' t).getLast? with
  | none | some [] | some ['.'] => false
  | some _ => true

/-- The name of a template in reports. -/
def sourceName (template : Text) : Text := if template = standardInput then [] else template

/-- Whether a text names a directory that is there. -/
def namesDirectory (tree : FileTree) (t : Text) : Bool :=
  !t.isEmpty && tree.isDirectory (Path.ofText t)

/-- Whether a text names a file that is there. -/
def namesFile (tree : FileTree) (t : Text) : Bool :=
  canNameFile t && tree.isFile (Path.ofText t)

/-- Whether a template can be opened. -/
def canOpen (e : Environment) (template : Text) : Bool :=
  template = standardInput || namesFile e.tree template

/-- The text of a template that can be opened. -/
def templateText (e : Environment) (template : Text) : Except FileFault Text :=
  if template = standardInput then .ok (unifyLineFeeds e.input)
  else Build.read e.tree (Path.ofText template)

/-- A line that tells what was done, given as a styled text. Lines take 80 cells at most. -/
def statusLine (styled : Text) : Text := layOut 80 (shown styled) ++ ['\n']

/-- A path in a styled text, in colour. -/
def coloured (p : Path) : Text := "[cyan]".toList ++ escapeTags p.text ++ "[/]".toList

def runCompile (e : Environment) (limit : Nat) (template : Text) (output : Option Text)
    (config : Config) : Outcome :=
  if !canOpen e template then .misuse e.tree (.unreadable template)
  else if output.any (namesDirectory e.tree) then .misuse e.tree (.notFile (output.getD []))
  else
    match config.fault?, templateText e template with
    | some fault, _ => .misuse e.tree (.config fault)
    | none, .error fault => .crashed e.tree [] (.file fault)
    | none, .ok text =>
      match compile config text limit, output with
      | .error error, _ => .failure e.tree (error.report (sourceName template))
      | .ok component, none => .success e.tree (withoutSequences (Build.fileText component))
      | .ok component, some file =>
        let path := Path.ofText file
        match e.tree.writeThrough path (utf8 (Build.fileText component)) with
        | (tree, some fault) => .crashed tree [] (.file fault)
        | (tree, none) => .success tree (statusLine ("✅ Wrote ".toList ++ coloured path))

/-- The report on a tree that is nested too deeply to be shown. -/
def tooDeepToShow (file : Text) : Report :=
  { kind := .nesting, detail := "Template nesting is too deep to display".toList, file,
    position := none, source := none, construct := none }

def runAst (e : Environment) (limit : Nat) (template : Text) : Outcome :=
  if !canOpen e template then .misuse e.tree (.unreadable template)
  else
    match templateText e template with
    | .error fault => .crashed e.tree [] (.file fault)
    | .ok text =>
      match parse text with
      | .error error => .failure e.tree (error.report (sourceName template))
      | .ok document =>
        let root := Node.document document
        if root.fits limit then .success e.tree (root.outline.pretty 0 ++ ['\n'])
        else .failure e.tree (tooDeepToShow (sourceName template))

def runBuild (e : Environment) (limit : Nat) (source : Text) (output : Option Text)
    (pattern : Text) : Outcome :=
  if !namesDirectory e.tree source then .misuse e.tree (.notDirectory source)
  else if output.any (namesFile e.tree) then .misuse e.tree (.notDirectory (output.getD []))
  else
    let sourcePath := Path.ofText source
    let outputPath := Path.ofText (output.getD source)
    let started :=
      statusLine ("🔨 Building templates in ".toList ++ coloured sourcePath ++ "...".toList)
    match Build.run ⟨{}, sourcePath, outputPath, pattern⟩ e.tree limit with
    | (.error error, tree) => .crashed tree started error
    | (.ok summary, tree) =>
      { status := if summary.failed.isEmpty then 0 else 1
        output := started ++ statusLine ("✅ Build complete (compiled=".toList ++
          Text.ofNat summary.compiled.length ++ ", failed=".toList ++
          Text.ofNat summary.failed.length ++ ", out=".toList ++
          escapeTags outputPath.text ++ [')'])
        notices := summary.failed.map fun (_, report) => ⟨none, report⟩
        crash := none
        tree }

/-- How the program is called. -/
def usage : Text :=
  "Usage: ".toList ++ programName ++ " [--version] [-v] compile|ast|build ARGUMENTS\n".toList

/-- Runs the program. -/
def run (e : Environment) (args : List Text) (limit : Nat := Node.nestingLimit) : Outcome :=
  match request args with
  | .error fault => .misuse e.tree fault
  | .ok .version =>
    .success e.tree (programName ++ ", version ".toList ++ version ++ ['\n'])
  | .ok .help => .success e.tree usage
  | .ok (.compile template output config) => runCompile e limit template output config
  | .ok (.ast template) => runAst e limit template
  | .ok (.build source output pattern) => runBuild e limit source output pattern

end Stencil.Cli
