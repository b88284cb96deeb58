import NamingLint.Glob
import NamingLint.Naming.Rule
import NamingLint.Path

/-!
# Failures

Everything that can stop loading a configuration, building a filter or analysing files, as causes
with one wording each.
-/

namespace NamingLint

/-- Why a file could not be read as text. -/
inductive ReadError where
  | notFound
  | notDirectory
  | isDirectory
  | permissionDenied
  | nameTooLong
  | tooManyLinks
  | nulInPath
  | invalidEncoding
  deriving DecidableEq, Repr, Inhabited

/-- The wording of a read error. -/
def ReadError.message : ReadError → String
  | notFound => "No such file or directory (os error 2)"
  | notDirectory => "Not a directory (os error 20)"
  | isDirectory => "Is a directory (os error 21)"
  | permissionDenied => "Permission denied (os error 13)"
  | nameTooLong => "File name too long (os error 36)"
  | tooManyLinks => "Too many levels of symbolic links (os error 40)"
  | nulInPath => "file name contained an unexpected NUL byte"
  | invalidEncoding => "stream did not contain valid UTF-8"

/-- Why a path pattern or a native container pattern could not be used. -/
inductive PatternCause where
  | path (pattern : String) (error : Glob.PatternError)
  | native (pattern detail : String)
  | other (text : String)
  deriving DecidableEq, Repr

/-- The wording of a pattern's cause. -/
def PatternCause.message : PatternCause → String
  | path pattern error => "Invalid pattern '" ++ pattern ++ "': " ++ error.message
  | native pattern detail =>
    "Invalid native container pattern '" ++ pattern ++ "': " ++ detail
  | other text => text

/-- The versions of the configuration format that are understood. -/
def supportedVersions : List String := ["1.0"]

/-- What is wrong with a configuration. -/
inductive ConfigurationCause where
  | unreadable (file : Path) (cause : ReadError)
  | malformedFile (file : Path) (detail : String)
  | malformed (detail : String)
  | unsupportedVersion (version : String)
  | nativePattern (detail : String)
  | unknownRule (id : String)
  /-- An enabled rule that the catalog lacks, found when the rules are wired up. -/
  | unregisteredRule (id : String)
  | fixedSeverity (id : String) (severity : Severity)
  | pathFilter (cause : PatternCause)
  | ignoreFile (file : Path) (cause : ReadError)
  | other (text : String)
  deriving DecidableEq, Repr

/-- The wording of a configuration's cause. -/
def ConfigurationCause.message : ConfigurationCause → String
  | unreadable file cause => "Failed to read config file '" ++ file.text ++ "': " ++ cause.message
  | malformedFile file detail => "Failed to parse config file '" ++ file.text ++ "': " ++ detail
  | malformed detail => "Failed to parse config: " ++ detail
  | unsupportedVersion version =>
    "Unsupported configuration version: " ++ version ++ ". Supported versions: " ++
      ", ".intercalate supportedVersions
  | nativePattern detail => "Invalid native_container_pattern: " ++ detail
  | unknownRule id =>
    "Unknown rule '" ++ id ++ "'. Known rules: " ++
      ", ".intercalate (Naming.Rule.catalog.map Naming.Rule.id)
  | unregisteredRule id => "Unknown rule '" ++ id ++ "'"
  | fixedSeverity id severity =>
    "Severity of rule '" ++ id ++ "' is not configurable (fixed at " ++ severity.name ++ ")"
  | pathFilter cause => "Failed to create path filter: Pattern error: " ++ cause.message
  | ignoreFile file cause => "Failed to read ignore file '" ++ file.text ++ "': " ++ cause.message
  | other text => text

/-- Why a file could not be analysed. -/
inductive AnalysisCause where
  | unreadable (cause : ReadError)
  | other (text : String)
  deriving DecidableEq, Repr

/-- The wording of an analysis's cause. -/
def AnalysisCause.message : AnalysisCause → String
  | unreadable cause => "Failed to read file: " ++ cause.message
  | other text => text

/-- Why something could not be written. -/
inductive WriteCause where
  /-- The destination accepted no more bytes before all were written. -/
  | incomplete
  | other (text : String)
  deriving DecidableEq, Repr

/-- The wording of a failed write's cause. -/
def WriteCause.message : WriteCause → String
  | incomplete => "failed to write whole buffer"
  | other text => text

/-- A failure, by the activity that failed. -/
inductive Failure where
  | configuration (cause : ConfigurationCause)
  | io (cause : WriteCause)
  | pattern (cause : PatternCause)
  | analysis (file : String) (cause : AnalysisCause)
  | validation (text : String)
  deriving DecidableEq, Repr

/-- The wording of a failure. -/
def Failure.message : Failure → String
  | configuration cause => "Configuration error: " ++ cause.message
  | io cause => "IO error: " ++ cause.message
  | pattern cause => "Pattern error: " ++ cause.message
  | analysis file cause => "Analysis error in " ++ file ++ ": " ++ cause.message
  | validation text => "Validation error: " ++ text

end NamingLint
