import SigningConsole.Key.Query
import SigningConsole.Settings
import SigningConsole.Statistics.Window
/-!
The commands of the console, and the settings that a command line overrides.
-/

namespace SigningConsole

/-! ## Commands -/

/-- How to log in; without any of the three ways the operator is told where to. -/
inductive LoginWay where
  /-- By the URL to which the identity provider sent the browser. -/
  | callback (url : Url)
  | apiKey (key : String)
  /-- By a browser's `Cookie` header. -/
  | cookie (header : String)
  | ask

/-- Page and search of a listing. -/
structure Listing where
  page : UInt64 := 1
  pageSize : UInt64 := 10
  search : String := ""
  select : KeyField := .name

/-- What is said about a key that is created or imported. -/
structure KeyDescription where
  name : String
  description : String
  visibility : Option Visibility
  keyType : String
  /-- The attributes in the order given; of several at one key the last one counts. -/
  attributes : List (String × String)

/-- The files that hold the material of a key. -/
structure KeyPaths where
  privateKey : String
  publicKey : String
  certificate : Option String

/-- Commands about keys. -/
inductive KeyCommand where
  | list (visibility : Option Visibility) (filter : Listing)
  | details (id : Int32)
  | create (draft : KeyDescription) (parentId : Option Int32) (expireDays : Int)
  | importKey (draft : KeyDescription) (files : KeyPaths)
  | act (id : Int32) (action : KeyOperation)
  | exportKey (id : Int32) (out : Option String)
  | checkName (name : String) (visibility : Visibility)

/-- Commands about API tokens. -/
inductive TokenCommand where
  | list
  | create (description : String)
  | delete (id : Int32)

/-- Commands about certificates. -/
inductive CertificateCommand where
  | search (params : Parameters)
  | exportCsv (params : Parameters) (out : String)
  | edit (params : Parameters)
  | uploadInfo (params : Parameters)
  | delete (params : Parameters)

/-- Commands about cooperators. -/
inductive CooperatorCommand where
  | list (params : Parameters)
  | categories (params : Parameters)
  | types
  | save (file : String)
  | delete (params : Parameters)
  | details (params : Parameters)
  | uploadLogo (file : String) (mime : Option String)

/-- Commands about statistics. -/
inductive StatisticsCommand where
  | types
  | growth (hours : Int) (growthStep : GrowthStep)

/-- A command of the console. -/
inductive Command where
  | version
  | login (way : LoginWay)
  | logout
  | whoami (cookie permissions : Bool)
  /-- Shows the page behind a route. -/
  | visit (path : String)
  | keys (command : KeyCommand)
  | tokens (command : TokenCommand)
  | cert (command : CertificateCommand)
  | cooperator (command : CooperatorCommand)
  | statistics (command : StatisticsCommand)

/-! ## Command lines -/

/-- Settings that a command line gives. -/
structure Overrides where
  base : Option Url := none
  variant : Option Variant := none
  sessionFile : Option String := none
  timeout : Option UInt64 := none

/-- The settings with what the command line gives in place of them. A login page that is the default
one of the old backend becomes the default one of the new. -/
def Settings.override (s : Settings) (o : Overrides) : Settings :=
  let s :=
    match o.base with
    | some base =>
      let loginUrl := if s.loginUrl = defaultLogin s.base then defaultLogin base else s.loginUrl
      { s with base, loginUrl }
    | none => s
  { s with
    variant := o.variant.getD s.variant
    sessionFile := o.sessionFile.or s.sessionFile
    timeout := o.timeout.getD s.timeout }

/-- What a command line says. -/
structure CommandLine where
  overrides : Overrides
  /-- Whether to print JSON instead of tables. -/
  json : Bool
  /-- Whether to log everything. -/
  verbose : Bool
  command : Command

end SigningConsole
