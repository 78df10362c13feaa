/-
# EntitySchema.Report.Console -- showing log records

Records are shown by handlers: one writes to the console and another may append
to a file.  A handler takes the records from its level on and writes each as a
line in its layout.  `Console.setUp` puts new handlers in place of the old ones,
`Console.log` shows one record, and `Console.clear` removes the log file; a handler
whose file is removed goes on writing where nobody reads.
-/
import EntitySchema.Report.Journal
import EntitySchema.Storage.FileTree
import EntitySchema.Text.Case
import EntitySchema.Text.Quoted

namespace EntitySchema

open EntitySchema.Text (upperString quoted)

set_option autoImplicit false

/-! ## Records and their lines -/

/-- Something to be shown, with the place in a program it comes from. -/
structure LogRecord where
  level : Int
  source : String
  message : String
  line : Int := 1
  function : String := "f"
  deriving DecidableEq, Repr

/-- The levels that have names, by number. -/
def namedLevels : List (Int × String) :=
  [(50, "CRITICAL"), (40, "ERROR"), (30, "WARNING"), (20, "INFO"), (10, "DEBUG"), (0, "NOTSET")]

/-- The name of a level, or its number if it has none. -/
def levelText (level : Int) : String :=
  (namedLevels.lookup level).getD ("Level " ++ toString level)

/-- How a record is written. -/
inductive Layout where
  | detailed
  | simple
  deriving DecidableEq, Repr

namespace Layout

def ofWord (word : String) : Layout := if word = "detailed" then .detailed else .simple

def pattern : Layout → String
  | .detailed =>
      "%(asctime)s | %(levelname)-8s | %(name)s | %(funcName)s:%(lineno)d | %(message)s"
  | .simple => "%(levelname)s | %(name)s | %(message)s"

/-- The pattern of the time in a layout that shows it. -/
def timePattern? : Layout → Option String
  | .detailed => some "%Y-%m-%d %H:%M:%S"
  | .simple => none

/-- A text with blanks up to a width behind it. -/
def padded (width : Nat) (text : String) : String :=
  text ++ String.ofList (List.replicate (width - text.length) ' ')

/-- The line of a record that is shown at a time. -/
def line (layout : Layout) (time : String) (record : LogRecord) : String :=
  let parts := match layout with
    | .detailed =>
        [time, padded 8 (levelText record.level), record.source,
         record.function ++ ":" ++ toString record.line, record.message]
    | .simple => [levelText record.level, record.source, record.message]
  String.intercalate " | " parts ++ "\n"

end Layout

/-! ## Handlers -/

/-- Where a handler writes. -/
inductive LogTarget where
  | console
  /-- A file; it is attached as long as the file has not been removed. -/
  | file (path : Path) (attached : Bool)
  deriving DecidableEq, Repr

/-- A handler: where it writes, from which level on, and how. -/
structure LogHandler where
  target : LogTarget
  level : Int
  layout : Layout
  deriving DecidableEq, Repr

/-- The handlers in place, the level asked for, the files and the console's text. -/
structure Console where
  level : Int := 30
  handlers : List LogHandler := []
  tree : FileTree := {}
  shown : String := ""
  deriving DecidableEq, Repr

/-- Why handlers cannot be put in place. -/
inductive ConsoleError where
  | storage (cause : StorageError)
  | unknownLevel (text : String)
  deriving DecidableEq, Repr

def ConsoleError.message : ConsoleError → String
  | .storage cause => cause.reason
  | .unknownLevel text => "Unknown level: " ++ quoted text

/-- What is asked of the handlers. -/
structure ConsoleOptions where
  level : String := "INFO"
  formatType : String := "detailed"
  logToFile : Bool := false
  logFile : Option String := none
  clearExisting : Bool := false
  deriving DecidableEq, Repr

/-- The levels that can be asked for by name. -/
def levelWords : List (String × Int) :=
  [("CRITICAL", 50), ("FATAL", 50), ("ERROR", 40), ("WARNING", 30), ("WARN", 30), ("INFO", 20),
   ("DEBUG", 10), ("NOTSET", 0)]

/-- The number of a level that is asked for by name, in any case.  Any other word
asks for `INFO`, except one that names the basic pattern instead of a level. -/
def levelOfWord (word : String) : Except ConsoleError Int :=
  let word := upperString word
  if word = "BASIC_FORMAT" then .error (.unknownLevel "%(levelname)s:%(name)s:%(message)s")
  else .ok ((levelWords.lookup word).getD 20)

/-! ## Log files -/

/-- A path without the steps that lead up again. -/
def Path.straight (path : Path) : Path :=
  path.foldl (fun done name => if name = ".." then done.dropLast else done ++ [name]) []

/-- The file that a name stands for: by itself if it starts at the root, below the
directory `base` otherwise; no name stands for the usual one. -/
def logPath (base : Path) (logFile : Option String) : Path :=
  let name := (logFile.filter (!·.isEmpty)).getD "logs/er2sql.log"
  let path := Path.ofText name
  (if name.startsWith "/" then path else base ++ path).straight

namespace Console

/-- A computation on a console that may be refused. -/
abbrev Showing := ExceptT ConsoleError (StateM Console)

/-- Makes the directories above a log file. -/
def prepare (path : Path) : Showing Unit := do
  match (← get).tree.makeDirectories path.dropLast with
  | .ok tree => modify fun console => { console with tree }
  | .error cause => throw (.storage cause)

def detach (path : Path) (handler : LogHandler) : LogHandler :=
  match handler.target with
  | .file written _ =>
      if written = path then { handler with target := .file written false } else handler
  | .console => handler

def clear (path : Path) : Showing Unit := do
  prepare path
  let console ← get
  if console.tree.isDirectory path then throw (.storage .isDirectory)
  if console.tree.isFile path then
    set { console with
      tree := console.tree.remove path, handlers := console.handlers.map (detach path) }

def openFile (path : Path) : Showing Unit := do
  prepare path
  let console ← get
  if console.tree.isDirectory path then throw (.storage .isDirectory)
  if !console.tree.isFile path then set { console with tree := console.tree.write path "" }

/-- Puts new handlers in place of the old ones. -/
def setUp (base : Path) (options : ConsoleOptions) : Showing Unit := do
  let path := logPath base options.logFile
  if options.clearExisting && options.logToFile then clear path
  match levelOfWord options.level with
  | .error cause => throw cause
  | .ok level =>
      let layout := Layout.ofWord options.formatType
      modify fun console =>
        { console with level, handlers := [{ target := .console, level, layout }] }
      if options.logToFile then
        openFile path
        modify fun console =>
          { console with
            handlers := console.handlers ++ [{ target := .file path true, level, layout }] }

/-- The console after a handler has shown a record. -/
def showRecord (time : String) (record : LogRecord) (console : Console) (handler : LogHandler) :
    Console :=
  if record.level < handler.level then console
  else
    let line := handler.layout.line time record
    match handler.target with
    | .console => { console with shown := console.shown ++ line }
    | .file path true =>
        { console with
          tree := console.tree.write path ((console.tree.read? path).getD "" ++ line) }
    | .file _ false => console

def log (time : String) (record : LogRecord) (console : Console) : String × Console :=
  let after := console.handlers.foldl (showRecord time record) console
  (after.shown, { after with shown := "" })

end Console

end EntitySchema
