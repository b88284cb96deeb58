import NamingLint.Config.Basic
import NamingLint.Digest.Sha256
import NamingLint.Json.Value

/-!
# Fingerprints

A configuration is encoded as bytes, and the start of their digest is its fingerprint. Each part but
the first has a tag in front that starts with a zero byte.
-/

namespace NamingLint.Config

/-- The bytes of a text. -/
def bytesOf (text : String) : List UInt8 :=
  text.toList.flatMap String.utf8EncodeChar

/-- A part of the encoding: its tag and its text. -/
def tagged (tag text : String) : List UInt8 :=
  0 :: bytesOf tag ++ bytesOf text

/-- A flag as a byte. -/
def flagByte (flag : Bool) : UInt8 :=
  if flag then 1 else 0

/-- The settings of a rule behind its identifier. -/
def RuleSettings.encoding (settings : RuleSettings) : List UInt8 :=
  flagByte settings.enabled :: flagByte settings.allowUnderscoreDigit ::
    (settings.severity.elim [] fun severity => bytesOf severity.name) ++
    (settings.declarationKinds.getD []).flatMap fun kind => bytesOf kind.name

/-- The configuration as bytes. -/
def encoding (config : Config) : List UInt8 :=
  bytesOf config.version ++
    config.paths.patterns.flatMap (tagged "path:") ++
    (config.paths.ignoreFile.elim [] (tagged "ignore:")) ++
    tagged "native:" config.nativePattern ++
    config.rules.entries.flatMap fun (id, settings) => tagged "rule:" id ++ settings.encoding

/-- A byte in hexadecimal. -/
def hexByte (byte : UInt8) : List Char :=
  [Json.hexDigit (byte.toNat / 16), Json.hexDigit (byte.toNat % 16)]

/-- How many bytes of the digest make up a fingerprint. -/
def fingerprintLength : Nat := 8

/-- The fingerprint of a configuration. -/
def fingerprint (config : Config) : String :=
  String.ofList (((Digest.Sha256.digest config.encoding).take fingerprintLength).flatMap hexByte)

end NamingLint.Config
