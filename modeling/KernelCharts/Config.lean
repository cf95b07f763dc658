import KernelCharts.Plot.Run
import KernelCharts.Yaml.Reader

/-!
# Configurations

A configuration names a run, and lists its settings and plots.

* `Config` — the configuration;
* `Config.ofValue?` — the configuration of a document;
* `Config.ofNode` — the configuration of a YAML tree, where any scalar can be a name and an entry may
  be left empty;
* `Config.ofFile` — the configuration in a file.
-/

namespace KernelCharts

/-- what a run consists of -/
structure Config where
  name : String
  settings : Settings
  plots : List Plot
deriving DecidableEq, Repr

inductive ConfigFault where
  | unreadable (fault : FileFault)
  /-- the document is empty -/
  | empty
  /-- the document is a plain value -/
  | scalar (description : String)
  /-- an entry is missing -/
  | missing (name : String)
  /-- the document is malformed, or some entry is -/
  | malformed
deriving DecidableEq, Repr

structure ConfigError where
  path : String
  fault : ConfigFault
deriving DecidableEq, Repr

namespace ConfigError

/-- the wordings of an error and its cause, the error first -/
def chain (e : ConfigError) : List String :=
  let path := Text.quotedPath e.path
  match e.fault with
  | .unreadable fault => ["Read config " ++ path, fault.message]
  | .empty => ["Parse config " ++ path, "EOF while parsing a value"]
  | .scalar description =>
    ["Parse config " ++ path, s!"invalid type: {description}, expected struct Config"]
  | .missing name => ["Parse config " ++ path, "missing field \x60" ++ name ++ "\x60"]
  | .malformed => ["Parse config " ++ path, "invalid configuration"]

def message (e : ConfigError) : String := e.chain.headD ""

end ConfigError

namespace Config

def plots? (value : Value) : Option (List Plot) := do (← value.list?).mapM Plot.ofValue?

def ofValue? (value : Value) : Option Config := do
  match ← value.fields? ["name", "settings", "plots"] with
  | [name, settings, plots] =>
    return {
      name := ← (← name).text?
      settings := ← Value.getD? settings .default Settings.ofValue?
      plots := ← plots? (← plots) }
  | _ => none

/-! ## YAML -/

/-- the settings of a tree; an empty entry stands for no settings -/
def settingsOfNode? (node : Yaml.Node) : Option Settings :=
  match node with
  | .scalar [] _ => some .default
  | .mapping _ => Settings.ofValue? node.value
  | _ => none

/-- the plots of a tree; an empty entry stands for no plots -/
def plotsOfNode? (node : Yaml.Node) : Option (List Plot) :=
  if node.isBlank then some [] else plots? node.value

/-- the name of a tree: any scalar -/
def nameOfNode? : Yaml.Node → Option String
  | .scalar text _ => some (String.ofList text)
  | _ => none

/-- the only entry of a name among the entries of a tree -/
def entry (entries : List (List Char × Yaml.Node)) (name : String) :
    Except ConfigFault (Option Yaml.Node) :=
  match entries.filter (·.1 == name.toList) with
  | [] => .ok none
  | [(_, node)] => .ok (some node)
  | _ => .error .malformed

/-- what a reader makes of an entry, if it is there -/
def readEntry {β : Type} (read : Yaml.Node → Option β) (node : Option Yaml.Node) :
    Except ConfigFault (Option β) :=
  match node with
  | none => .ok none
  | some node =>
    match read node with
    | some value => .ok (some value)
    | none => .error .malformed

def required {β : Type} (name : String) (value : Option β) : Except ConfigFault β :=
  match value with
  | some value => .ok value
  | none => .error (.missing name)

/-- what a plain value is called -/
def describe (text : List Char) (plain : Bool) : String :=
  match (Yaml.Node.scalar text plain).value with
  | .null => "unit value"
  | .bool b => "boolean \x60" ++ toString b ++ "\x60"
  | .whole n => "integer \x60" ++ toString n ++ "\x60"
  | .real => "floating point \x60" ++ String.ofList text ++ "\x60"
  | _ => "string " ++ Text.quoted text

def ofNode (node : Yaml.Node) : Except ConfigFault Config :=
  match node with
  | .scalar [] _ => .error (.missing "name")
  | .scalar text plain => .error (.scalar (describe text plain))
  | .sequence _ => .error (.scalar "sequence")
  | .mapping entries => do
    let name ← readEntry nameOfNode? (← entry entries "name")
    let settings ← readEntry settingsOfNode? (← entry entries "settings")
    let plots ← readEntry plotsOfNode? (← entry entries "plots")
    return {
      name := ← required "name" name
      settings := settings.getD .default
      plots := ← required "plots" plots }

def ofText (text : List Char) : Except ConfigFault Config :=
  match Yaml.read text with
  | .error .empty => .error .empty
  | .error .malformed => .error .malformed
  | .ok node => ofNode node

def readText (fs : FileSystem) (path : String) : Except FileFault (List Char) := do
  let feed ← fs.openFile path
  match feed.fault with
  | some fault => .error fault
  | none =>
    match Utf8.decode? feed.bytes with
    | some text => .ok text
    | none => .error .notText

def ofFile (fs : FileSystem) (path : String) : Except ConfigError Config :=
  match readText fs path with
  | .error fault => .error ⟨path, .unreadable fault⟩
  | .ok text => (ofText text).mapError fun fault => ⟨path, fault⟩

end Config

end KernelCharts
