import EntitySql.Options

/-!
# Options from the environment

Options may be set by environment variables.  `Settings.ofVariables` reads the variables,
reporting every one that cannot be read, and `Settings.options` turns what was read into
options, reporting the first fault.
-/

namespace EntitySql

/-! ## Reading variables -/

/-- Why a text is not of the type of its setting. -/
inductive ReadFault
  | invalidDigit
  | empty
  | tooLarge
  | notBoolean
deriving DecidableEq, Repr

def ReadFault.message : ReadFault → String
  | .invalidDigit => "invalid digit found in string"
  | .empty => "cannot parse integer from empty string"
  | .tooLarge => "number too large to fit in target type"
  | .notBoolean => "provided string was not `true` or `false`"

/-- Reads digits behind a number already read, up to 64 bits; the first character that is no
digit or makes the number too large decides the fault. -/
def readDigits (n : Nat) : List Char → Except ReadFault Nat
  | [] => .ok n
  | c :: rest =>
    if !c.isDigit then .error .invalidDigit
    else
      let m := 10 * n + (c.toNat - 48)
      if m < UInt64.size then readDigits m rest else .error .tooLarge

/-- Reads a natural number of 64 bits, with or without a plus sign. -/
def readSize (s : String) : Except ReadFault Nat :=
  match s.toList with
  | [] => .error .empty
  | ['+'] => .error .invalidDigit
  | '+' :: ds => readDigits 0 ds
  | ds => readDigits 0 ds

def readFlag (s : String) : Except ReadFault Bool :=
  if s = "true" then .ok true
  else if s = "false" then .ok false
  else .error .notBoolean

/-- A variable, `source`, that cannot be read, with the setting it is for. -/
structure VariableFault where
  setting : String
  source : String
  text : String
  fault : ReadFault
deriving DecidableEq, Repr

def VariableFault.message (f : VariableFault) : String :=
  s!"`EnvOptions.{f.setting}`: Failed to parse '{f.source}'=\"{f.text}\": {f.fault.message}"

/-- The settings as the variables hold them. -/
structure Settings where
  chunkSize : Nat := 800
  pageSize : Nat := 100
  columnMode : String := "throw"
  likeMode : String := "raw"
  likeEscape : String := ""
  defaultOrder : String := "created_at"
  insertIdentifier : Bool := false
  maxInsertRows : Nat := 1000
deriving DecidableEq, Repr

/-- A setting with what is wrong with its variable, the default where there is no variable
or it cannot be read. -/
def readVariable {α : Type} (lookup : String → Option String) (setting source : String)
    (read : String → Except ReadFault α) (default : α) : α × List VariableFault :=
  match lookup source with
  | none => (default, [])
  | some text =>
    match read text with
    | .ok a => (a, [])
    | .error fault => (default, [⟨setting, source, text, fault⟩])

/-- The settings that variables hold, or all the variables that cannot be read. -/
def Settings.ofVariables (lookup : String → Option String) :
    Except (List VariableFault) Settings :=
  let (chunkSize, f₁) := readVariable lookup "chunk_size" "TABULA_CHUNK_SIZE" readSize 800
  let (pageSize, f₂) := readVariable lookup "page_size" "TABULA_PAGE_SIZE" readSize 100
  let (insertIdentifier, f₃) :=
    readVariable lookup "insert_identifier" "TABULA_INSERT_IDENTIFIER" readFlag false
  let (maxInsertRows, f₄) :=
    readVariable lookup "max_insert_rows" "TABULA_MAX_INSERT_ROWS" readSize 1000
  let faults := f₁ ++ f₂ ++ f₃ ++ f₄
  if faults.isEmpty then
    .ok
      { chunkSize, pageSize, insertIdentifier, maxInsertRows
        columnMode := (lookup "TABULA_COLUMN_MODE").getD "throw"
        likeMode := (lookup "TABULA_LIKE_MODE").getD "raw"
        likeEscape := (lookup "TABULA_LIKE_ESCAPE").getD ""
        defaultOrder := (lookup "TABULA_DEFAULT_ORDER").getD "created_at" }
  else .error faults

/-! ## From settings to options -/

inductive SettingsError
  | unreadable (faults : List VariableFault)
  | longEscape
  | columnMode (word : Unrecognized)
  | likeMode (word : Unrecognized)
  | outOfRange (fault : OptionsFault)
deriving DecidableEq, Repr

/-- The lines of faults, numbered from `n` on. -/
def VariableFault.lines : (n : Nat) → List VariableFault → List String
  | _, [] => []
  | n, f :: rest => s!"  {n}. {f.message}\n" :: lines (n + 1) rest

def SettingsError.message : SettingsError → String
  | .unreadable faults =>
    let count := faults.length
    let noun := if count = 1 then "error" else "errors"
    s!"issue loading tabula options: {count} configuration {noun}:\n" ++
      String.join (VariableFault.lines 1 faults)
  | .longEscape => "TABULA_LIKE_ESCAPE must be a single character"
  | .columnMode word => s!"TABULA_COLUMN_MODE: {word.message}"
  | .likeMode word => s!"TABULA_LIKE_MODE: {word.message}"
  | .outOfRange fault => fault.message

/-- The escape character that a text sets: none where it is empty. -/
def readEscape (s : String) : Except SettingsError (Option Char) :=
  match s.toList with
  | [] => .ok none
  | [c] => .ok (some c)
  | _ => .error .longEscape

/-- The options of settings: the escape character is read first, then the modes, and last
the ranges are checked. -/
def Settings.options (s : Settings) : Except SettingsError Options := do
  let likeEscape ← readEscape s.likeEscape
  let columnMode ← (ColumnMode.parse s.columnMode).mapError .columnMode
  let likeMode ← (LikeMode.parse s.likeMode).mapError .likeMode
  let options : Options :=
    { chunkSize := s.chunkSize, pageSize := s.pageSize, columnMode, likeMode, likeEscape
      defaultOrder := s.defaultOrder, insertIdentifier := s.insertIdentifier
      maxInsertRows := s.maxInsertRows }
  (options.check).mapError .outOfRange
  return options

/-- The options that environment variables set. -/
def Options.ofVariables (lookup : String → Option String) : Except SettingsError Options :=
  match Settings.ofVariables lookup with
  | .ok settings => settings.options
  | .error faults => .error (.unreadable faults)

end EntitySql
