/-!
# Log records

Diagnostics for someone who watches a run. They are collected as values, in the order in which they
arise.
-/

namespace Unmask

inductive Level where
  | error | warn | info | debug
  deriving DecidableEq, Repr, Inhabited

def Level.display : Level → String
  | .error => "ERROR"
  | .warn => "WARN"
  | .info => "INFO"
  | .debug => "DEBUG"

structure LogRecord where
  level : Level
  message : String
  deriving DecidableEq, Repr, Inhabited

namespace LogRecord

def warn (message : String) : LogRecord := ⟨.warn, message⟩

def info (message : String) : LogRecord := ⟨.info, message⟩

def debug (message : String) : LogRecord := ⟨.debug, message⟩

end LogRecord

end Unmask
