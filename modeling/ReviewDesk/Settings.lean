import ReviewDesk.Number.Numeral
import ReviewDesk.Text.Blank
import ReviewDesk.Text.Case
import ReviewDesk.Text.Quoted

set_option autoImplicit false

namespace ReviewDesk

open Number Text

structure Settings where
  apiKey : Option String
  model : Option String
  baseUrl : Option String
  timeout : Option String
  maxTokens : Option String
  listenHost : Option String
  listenPort : Option String
  logLevel : Option String
deriving DecidableEq

namespace Settings

def unset : Settings := ⟨none, none, none, none, none, none, none, none⟩

def textOr (fallback : String) (setting : Option String) : String :=
  match setting with
  | some given => if stripped given = "" then fallback else stripped given
  | none => fallback

def intOr (fallback : Int) (setting : Option String) : Int :=
  ((setting.bind fun given => integer? given.toList)).getD fallback

def key (settings : Settings) : String := textOr "" settings.apiKey

def hasKey (settings : Settings) : Bool := settings.key ≠ ""

def modelName (settings : Settings) : String := textOr "deepseek-reasoner" settings.model

def endpoint (settings : Settings) : String := textOr "https://api.deepseek.com" settings.baseUrl

def defaultTimeout : Double := .ofInt 60

def timeLimit (settings : Settings) : Double :=
  (settings.timeout.bind fun given => real? given.toList).getD defaultTimeout

def tokenLimit (settings : Settings) : Int := intOr 2000 settings.maxTokens

/-- Unlike the other texts, a blank host stays blank. -/
def hostName (settings : Settings) : String := stripped (settings.listenHost.getD "0.0.0.0")

def portNumber (settings : Settings) : Int := intOr 8000 settings.listenPort

def levelName (settings : Settings) : String :=
  let name := String.ofList (upper (textOr "" settings.logLevel).toList)
  if name = "" then "INFO" else name

end Settings

inductive LevelValue where
  | number (level : Nat)
  | word (text : String)
  | table (text : String)
deriving DecidableEq

namespace LevelValue

def info : Nat := 20

-- Two names of the logging facility stand for something else than a level.
def ofName : String → LevelValue
  | "CRITICAL" | "FATAL" => number 50
  | "ERROR" => number 40
  | "WARNING" | "WARN" => number 30
  | "INFO" => number info
  | "DEBUG" => number 10
  | "NOTSET" => number 0
  | "BASIC_FORMAT" => word "%(levelname)s:%(name)s:%(message)s"
  | "_STYLES" => table
      "\x7b'%': (<class 'logging.PercentStyle'>, '%(levelname)s:%(name)s:%(message)s'), '\x7b': (<class 'logging.StrFormatStyle'>, '\x7blevelname\x7d:\x7bname\x7d:\x7bmessage\x7d'), '$': (<class 'logging.StringTemplateStyle'>, '$\x7blevelname\x7d:$\x7bname\x7d:$\x7bmessage\x7d')\x7d"
  | _ => number info

end LevelValue

inductive LevelFault where
  | unknownName (name : String)
  | notLevel (shown : String)
deriving DecidableEq

def LevelFault.message : LevelFault → String
  | unknownName name => "Unknown level: " ++ quoted name
  | notLevel shown => "Level not an integer or a valid string: " ++ shown

def Settings.threshold (settings : Settings) : Except LevelFault Nat :=
  match LevelValue.ofName settings.levelName with
  | .number level => .ok level
  | .word text => .error (.unknownName text)
  | .table text => .error (.notLevel text)

end ReviewDesk
