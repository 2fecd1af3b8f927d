import CustomFields.Digest.Sha256
import CustomFields.Json.Printer
import CustomFields.Schema.Document

/-!
# Fingerprints of schemas

The canonical text of a schema is its document without blanks. The fingerprint is the digest of
that text, so equal schemas have equal fingerprints.
-/

namespace CustomFields.Schema

/-- The text that a schema is known by. -/
def canonicalText (s : Schema) : String :=
  s.toJson.compact

/-- The digest of the text that a schema is known by. -/
def fingerprint (s : Schema) : String :=
  Sha256.hexDigest s.canonicalText.toUTF8.toList

end CustomFields.Schema
