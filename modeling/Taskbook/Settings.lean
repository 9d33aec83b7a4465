/-
  Settings. Each has a default and may be set by a variable of the environment, whose name is read
  in either case; of variables whose names differ in case alone the last one counts.
-/
import Taskbook.Number.Numeral
import Taskbook.Text.Case

namespace Taskbook

/-- Where the wiki runs. -/
inductive Stage where
  | development
  | testing
  | production
  deriving DecidableEq, Repr

/-- The stage as it is written. -/
def Stage.word : Stage → Text
  | .development => "development"
  | .testing => "testing"
  | .production => "production"

/-- The stage that is written as a given word. -/
def Stage.ofWord? (s : Text) : Option Stage :=
  [Stage.development, .testing, .production].find? (·.word = s)

/-- The settings of a wiki. -/
structure Settings where
  appName : Text := "TaskWiki"
  appVersion : Text := "0.1.0"
  /-- What stands before the path in links to pages. -/
  baseUrl : Text := []
  stage : Stage := .development
  logLevel : Text := "INFO"
  databaseUrl : Text := "sqlite+aiosqlite:///./taskwiki.db"
  echo : Bool := false
  homepage : Text := "Home"
  siteName : Text := "TaskWiki"
  /-- Seconds to wait for a remote text; without it there is no end to waiting. -/
  fetchTimeout : Option Binary64 := none
  deriving DecidableEq, Repr

/-- What a variable of the environment should have held. -/
inductive SettingFault where
  | stage
  | echo
  | fetchTimeout
  deriving DecidableEq, Repr

namespace Settings

/-- The value of a variable, whose name is given in lower case. -/
def lookup? (environment : List (Text × Text)) (name : Text) : Option Text :=
  (environment.reverse.find? fun entry => entry.1.lower = name).map (·.2)

/-- Whether every low line of a numeral stands alone between other characters. -/
def spacedByLines (s : Text) : Bool := (Text.splitOn ['_'] s).all (· ≠ [])

/-- The number of seconds that a text stands for. Low lines may stand within it if there are no
    blanks around it. -/
def seconds? (s : Text) : Option Binary64 :=
  Binary64.read? (Text.trim isPadding s) <|>
    if spacedByLines s then Binary64.read? (s.filter (· ≠ '_')) else none

/-- The value of a variable, or the default, or the fault if the variable cannot be read. -/
def readOr {α : Type} (environment : List (Text × Text)) (name : Text) (read : Text → Option α)
    (otherwise : α) (fault : SettingFault) : Except SettingFault α :=
  match lookup? environment name with
  | none => .ok otherwise
  | some value =>
    match read value with
    | some found => .ok found
    | none => .error fault

/-- The fault of an outcome. -/
def faultOf {α : Type} : Except SettingFault α → List SettingFault
  | .error fault => [fault]
  | .ok _ => []

/-- The settings in an environment, or all faults, in the order of the settings. -/
def ofEnvironment (environment : List (Text × Text)) : Except (List SettingFault) Settings :=
  let base : Settings := {}
  let text (name otherwise : Text) : Text := (lookup? environment name).getD otherwise
  let stage := readOr environment "environment" Stage.ofWord? base.stage .stage
  let echo := readOr environment "db_echo" Text.flag? base.echo .echo
  let timeout := readOr environment "fetch_timeout" (fun s => (seconds? s).map some)
    base.fetchTimeout .fetchTimeout
  match stage, echo, timeout with
  | .ok stage, .ok echo, .ok fetchTimeout =>
    .ok
      { appName := text "app_name" base.appName
        appVersion := text "app_version" base.appVersion
        baseUrl := text "base_url" base.baseUrl
        stage
        logLevel := text "log_level" base.logLevel
        databaseUrl := text "database_url" base.databaseUrl
        echo
        homepage := text "homepage" base.homepage
        siteName := text "site_name" base.siteName
        fetchTimeout }
  | _, _, _ => .error (faultOf stage ++ faultOf echo ++ faultOf timeout)

end Settings

end Taskbook
