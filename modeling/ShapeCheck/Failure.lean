import ShapeCheck.FileTree
import ShapeCheck.Json.Reader
import ShapeCheck.Locator
import ShapeCheck.Text.Quoted

/-!
# Failures

Violations are no failures: these concern locators, configuration and files.

* `Failure`: what can go wrong around the validation of values;
* `Failure.message`: a failure in words, as far as it does not depend on how patterns and
  configuration files are read.
-/

namespace ShapeCheck

/-- What can go wrong around the validation of values; `noElement` is a step to an element of a list
where there can be none. -/
inductive Failure where
  | invalidLocator (fault : Locator.Fault)
  | invalidFormatPattern (name : String)
  | schemaFile (path : String) (error : Json.ReadError)
  | io (fault : IoFault)
  | json (error : Json.ReadError)
  | walk (path : String) (fault : IoFault)
  | configuration
  | noElement
  deriving DecidableEq, Repr

/-- A failure in words. -/
def Failure.message : Failure → String
  | invalidLocator fault =>
    "Invalid locator '" ++ fault.locator ++ "' at offset " ++ toString fault.offset
  | invalidFormatPattern name => "Invalid pattern for format '" ++ name ++ "'"
  | schemaFile path error =>
    "Schema file " ++ Text.quoted path ++ " could not be parsed: " ++ error.message
  | io fault => "IO error: " ++ fault.message
  | json error => "JSON error: " ++ error.message
  | walk path fault =>
    "Directory walk error: IO error for operation on " ++ path ++ ": " ++ fault.message
  | configuration => "Configuration error"
  | noElement => "No such element"

end ShapeCheck
