import Resumption.Path

/-!
The variables of the environment that the service looks at, and the directories that follow from
them. A directory variable counts only when it holds an absolute path; otherwise the directory lies
below the home directory.
-/

namespace Resumption

/-- The variables that matter, as far as they are set. -/
structure Environment where
  home : Option String := none
  /-- The home directory that the account has where the variable names none. -/
  accountHome : Option String := none
  configHome : Option String := none
  dataHome : Option String := none
  logLevel : Option String := none
  dataDir : Option String := none
deriving DecidableEq, Repr

namespace Environment

/-- A value that is not empty. -/
def filled (value : Option String) : Option String :=
  value.filter (· ≠ "")

/-- The home directory, if there is one. -/
def homeDir? (e : Environment) : Option Path :=
  ((filled e.home).or e.accountHome).map Path.ofText

/-- The directory that a value names by an absolute path, or else one below the home directory,
or else the current directory. -/
def directory (e : Environment) (value : Option String) (belowHome : List String) : Path :=
  match (value.map Path.ofText).filter Path.isAbsolute with
  | some path => path
  | none => match e.homeDir? with
    | some home => home.join ⟨belowHome⟩
    | none => ⟨["."]⟩

/-- Where the settings are kept unless another place is given. -/
def settingsPath (e : Environment) : Path :=
  ((e.directory e.configHome [".config"]).child "tessera").child "config.toml"

/-- Where the service keeps its data unless the settings say otherwise. -/
def defaultDataDir (e : Environment) : Path :=
  (e.directory e.dataHome [".local", "share"]).child "tessera"

end Environment
end Resumption
