-- SUMMARY: The configuration of a store and the file that holds it.
import DocStore.CatalogFile
import DocStore.Database
import DocStore.Toml.Table

/-!
# Configuration

A store is configured by a file in its data directory. A setting that the file does not have takes
its default, and what the file has beyond the settings does not count. The two settings with named
choices are kept as they are written and checked when the file is read or the store is opened.
-/

namespace DocStore

/-- The settings of a store. -/
structure Config where
  writeMode : String
  idPolicy : String
  enforceSchema : Bool
  lockFile : Bool
  pretty : Bool
deriving DecidableEq, Repr, Inhabited

namespace Config

def fileName : String := "jsondoc.toml"

/-- The settings that hold unless a file says otherwise. -/
def standard : Config :=
  ⟨WriteMode.atomic.name, IdPolicy.maxPlusOne.name, false, false, false⟩

/-- How files are replaced, if the setting names a mode. -/
def writeMode? (c : Config) : Except Error WriteMode :=
  match WriteMode.ofName? c.writeMode with
  | some mode => .ok mode
  | none => .error (.config (.writeMode c.writeMode))

/-- How identifiers are chosen, if the setting names a policy. -/
def idPolicy? (c : Config) : Except Error IdPolicy :=
  match IdPolicy.ofName? c.idPolicy with
  | some policy => .ok policy
  | none => .error (.config (.idPolicy c.idPolicy))

/-- The error of the first setting that names no choice. -/
def validate (c : Config) : Except Error Unit := do
  let _ ← c.writeMode?
  let _ ← c.idPolicy?

def databaseOptions (c : Config) : Except Error DatabaseOptions := do
  return ⟨← c.idPolicy?, c.enforceSchema, c.lockFile⟩

/-! ## Text -/

/-- The text of a configuration file that is written when there is none. -/
def standardText : String :=
  String.join ((List.map fun line => line ++ "\n") [
    "# jsondoc store configuration",
    "#",
    "# How database files are rewritten: \"atomic\" (default) or \"overwrite\"",
    "#   \"atomic\"    = write a temp file, fsync, rename over the database file",
    "#   \"overwrite\" = truncate and write in place, no fsync",
    "write_mode = \"atomic\"",
    "",
    "# Record identifier assignment: \"max_plus_one\" (default) or \"sequence\"",
    "#   \"max_plus_one\" = highest live _id + 1",
    "#   \"sequence\"     = persisted per-collection counter, ids never reused",
    "id_policy = \"max_plus_one\"",
    "",
    "# Validate inserts and updates against collection schemas (default: false)",
    "enforce_schema = false",
    "",
    "# Hold an exclusive <name>.json.lock file during every operation so separate",
    "# processes cannot interleave writes (default: false)",
    "lock_file = false",
    "",
    "# Pretty-print database files (default: false)",
    "pretty = false"])

def textSetting? (items : Toml.Items) (name default : String) : Option String :=
  match Assoc.get? name items with
  | none => some default
  | some (.value (.text s)) => some s
  | some _ => none

/-- A setting that is a flag; it is off unless it is set. -/
def flagSetting? (items : Toml.Items) (name : String) : Option Bool :=
  match Assoc.get? name items with
  | none => some false
  | some (.value (.flag b)) => some b
  | some _ => none

/-- The settings that a text holds, if it is well-formed and each is of its kind. -/
def parse? (text : String) : Option Config := do
  let items ← Toml.parse? text
  return {
    writeMode := ← textSetting? items "write_mode" standard.writeMode
    idPolicy := ← textSetting? items "id_policy" standard.idPolicy
    enforceSchema := ← flagSetting? items "enforce_schema"
    lockFile := ← flagSetting? items "lock_file"
    pretty := ← flagSetting? items "pretty" }

def settingLine (name : String) (value : List Char) : List Char :=
  name.toList ++ " = ".toList ++ value ++ ['\n']

def flagChars (b : Bool) : List Char :=
  if b then "true".toList else "false".toList

/-- The settings as a text, one line for each. -/
def text (c : Config) : String :=
  String.ofList (
    settingLine "write_mode" (Toml.stringChars c.writeMode) ++
    settingLine "id_policy" (Toml.stringChars c.idPolicy) ++
    settingLine "enforce_schema" (flagChars c.enforceSchema) ++
    settingLine "lock_file" (flagChars c.lockFile) ++
    settingLine "pretty" (flagChars c.pretty))

/-! ## Files -/

/-- The settings that a file holds. -/
def ofFile (fs : FileSystem) (path : Path) : Except Error Config := do
  match fs.read path with
  | .error fault => throw (.config (.unreadable path.text fault))
  | .ok bytes =>
    match String.fromUTF8? bytes with
    | none => throw (.config (.notText path.text))
    | some text =>
      match parse? text with
      | none => throw (.config (.malformed path.text))
      | some config =>
        config.validate
        return config

def readFile (path : Path) : Disk Config := do
  Disk.ofExcept (ofFile (← get) path)

/-- Write the standard text to a file, unless something is there. -/
def writeStandardIfMissing (path : Path) : Disk Unit := do
  if (← get).contains path then return
  else Disk.change path fun fs => fs.write path standardText.toUTF8

def writeFile (c : Config) (path : Path) : Disk Unit :=
  Disk.change path fun fs => fs.write path c.text.toUTF8

end Config

end DocStore
