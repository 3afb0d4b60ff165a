import ScopeProbe.FileSystem
import ScopeProbe.Format.PropertyList.Basic
import ScopeProbe.UnrecognizedScope

/-!
# Failures

Why a request fails, and the words for it.  Failures to load a grammar and faults of a
configuration are reported with the file that they are about.  A breakdown is a failure of a
reader, an engine or a module that is passed on as it is.
-/

namespace ScopeProbe

/-!
# Reports
-/

structure Report where
  message : Text
  path : Option Text := none
  deriving DecidableEq, Repr

namespace Report

def inRows (report : Report) : Text :=
  "error: ".toList ++ report.message ++
    match report.path with
    | none => []
    | some path => "\n  --> ".toList ++ path

def inLine (report : Report) : Text :=
  "error: ".toList ++ report.message ++
    match report.path with
    | none => []
    | some path => " (".toList ++ path ++ [')']

end Report

def apostrophes (name : Text) : Text :=
  '\'' :: name ++ ['\'']

def unspecified : Text :=
  ['*']

/-!
# Grammars
-/

inductive ImportFault where
  | missing (name : Text)
  /-- The name continues the name of a module that holds no others. -/
  | insideModule (name module : Text)
  | broken (reason : String)
  deriving DecidableEq, Repr

namespace ImportFault

def reason : ImportFault -> Text
  | missing name => "No module named ".toList ++ name.quoted
  | insideModule name module =>
      "No module named ".toList ++ name.quoted ++ "; ".toList ++ module.quoted ++
        " is not a package".toList
  | broken reason => reason.toList

end ImportFault

inductive LoadFault where
  | unreadable (fault : FileFault) (path : Path)
  | malformed (path : Path)
  | notTable (path : Path)
  | invalidFactory (factory : Text)
  | notImported (module : Text) (fault : ImportFault)
  | missingAttribute (module name : Text)
  | notEngine (factory : Text)
  | noEngine
  deriving DecidableEq, Repr

namespace LoadFault

def message : LoadFault -> Text
  | unreadable fault _ => "cannot read grammar file: ".toList ++ fault.reason.toList
  | malformed _ => "malformed grammar file: ".toList ++ unspecified
  | notTable _ => "grammar file must contain a dictionary at top level".toList
  | invalidFactory factory =>
      "invalid engine factory (expected module:attribute): ".toList ++ factory
  | notImported module fault =>
      "cannot import engine module ".toList ++ apostrophes module ++ ": ".toList ++ fault.reason
  | missingAttribute module name =>
      "module ".toList ++ apostrophes module ++ " has no attribute ".toList ++ apostrophes name
  | notEngine factory =>
      "engine factory ".toList ++ apostrophes factory ++ " did not produce a rule engine".toList
  | noEngine => "no rule engine configured (set [engine] factory in manascope.toml)".toList

def path? : LoadFault -> Option Path
  | unreadable _ path | malformed path | notTable path => some path
  | _ => none

def report (fault : LoadFault) : Report :=
  { message := fault.message, path := fault.path?.map fun path => path.toString.toList }

end LoadFault

/-!
# Configurations
-/

inductive ConfigSection where
  | grammar
  | engine
  | logging
  deriving DecidableEq, Repr

def ConfigSection.name : ConfigSection -> String
  | grammar => "grammar"
  | engine => "engine"
  | logging => "logging"

inductive ConfigFault where
  | malformed (path : Path)
  | notTable (part : ConfigSection)
  | notText (part : ConfigSection) (key : String)
  | unknownLevel (name : Text)
  deriving DecidableEq, Repr

namespace ConfigFault

def message : ConfigFault -> Text
  | malformed _ => "invalid TOML: ".toList ++ unspecified
  | notTable part => '[' :: part.name.toList ++ "] must be a table".toList
  | notText part key => part.name.toList ++ '.' :: key.toList ++ " must be a string".toList
  | unknownLevel name => "unknown log level: ".toList ++ name

def path? : ConfigFault -> Option Path
  | malformed path => some path
  | _ => none

def report (fault : ConfigFault) : Report :=
  { message := fault.message, path := fault.path?.map fun path => path.toString.toList }

end ConfigFault

/-!
# Breakdowns
-/

/-- A failure that is passed on as it is. -/
inductive Breakdown where
  | nulInPath
  | nameTooLong (path : Path)
  | notText
  | integerTooLong (digits : Nat)
  | tooDeep (occasion : String)
  | noDate
  | incompleteDate (missing : Format.PropertyList.DatePart)
  | outsideContainer
  | unknownEncoding (name : String)
  | textlessEncoding (name : String)
  /-- A module is named from another one, and there is none. -/
  | relativeModule (name : Text)
  | moduleFailed (reason : String)
  | factoryFailed (reason : String)
  | foreignGrammar
  | unknownLevel (name : Text)
  deriving DecidableEq, Repr

namespace Breakdown

def partName : Format.PropertyList.DatePart -> String
  | .month => "'month' (pos 2)"
  | .day => "'day' (pos 3)"

/-- The words for a breakdown.  There are none for a text in place of a date and for octets that
are no text. -/
def message? : Breakdown -> Option Text
  | nulInPath => some FileFault.nulInPath.reason.toList
  | nameTooLong path =>
      some ("[Errno 36] ".toList ++ FileFault.nameTooLong.reason.toList ++ ": ".toList ++
        Text.quoted path.toString.toList)
  | notText => none
  | integerTooLong digits =>
      some ("Exceeds the limit (4300 digits) for integer string conversion: value has ".toList ++
        Text.ofNat digits ++
        " digits; use sys.set_int_max_str_digits() to increase the limit".toList)
  | tooDeep occasion => some ("maximum recursion depth exceeded".toList ++ occasion.toList)
  | noDate => none
  | incompleteDate missing =>
      some ("function missing required argument ".toList ++ (partName missing).toList)
  | outsideContainer => some "list index out of range".toList
  | unknownEncoding name => some ("unknown encoding: ".toList ++ name.toList)
  | textlessEncoding name =>
      some (apostrophes name.toList ++
        " is not a text encoding; use codecs.decode() to handle arbitrary codecs".toList)
  | relativeModule name =>
      some ("the 'package' argument is required to perform a relative import for ".toList ++
        name.quoted)
  | moduleFailed reason | factoryFailed reason => some reason.toList
  | foreignGrammar => some "fake engine only understands source.mana".toList
  | unknownLevel name => some ("Unknown level: ".toList ++ name.quoted)

end Breakdown

/-!
# All failures
-/

inductive Failure where
  | load (fault : LoadFault)
  | config (fault : ConfigFault)
  | missingGrammar (scope : String)
  | unrecognized (failure : UnrecognizedScope)
  | breakdown (cause : Breakdown)
  deriving DecidableEq, Repr

namespace Failure

def missingGrammarMessage (scope : Text) : Text :=
  "no grammar available for scope ".toList ++ apostrophes scope

def message? : Failure -> Option Text
  | load fault => some fault.report.inRows
  | config fault => some fault.report.inLine
  | missingGrammar scope => some ("error: ".toList ++ missingGrammarMessage scope.toList)
  | unrecognized failure => some failure.format
  | breakdown cause => cause.message?

end Failure
end ScopeProbe
