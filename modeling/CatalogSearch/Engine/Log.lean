namespace CatalogSearch

inductive LogLevel where
  | debug
  | info
  deriving DecidableEq

def LogLevel.name : LogLevel → String
  | debug => "DEBUG"
  | info  => "INFO"

structure LogLine where
  level  : LogLevel
  source : String
  text   : String

end CatalogSearch
