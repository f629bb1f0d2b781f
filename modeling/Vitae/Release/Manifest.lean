import Vitae.Files.Path
import Vitae.Json.Record
import Vitae.Release.Timestamp
import Vitae.Release.Version

/-!
# Manifests and Records

Two small JSON texts accompany a release. The manifest says which version is the
latest and where it can be had. The record says which version was installed
last, where it was put, and when.

## Main definitions

* `Manifest`: The latest release.
* `Manifest.parse`: The manifest a text holds.
* `Installed`: The release that was installed last.
* `Installed.parse`: The record a text holds.
* `Installed.text`: A record as it is written.
-/

namespace Vitae

/-- The latest release. -/
structure Manifest where
  version : String
  url : String
  notes : Option String
deriving DecidableEq, Repr

namespace Manifest

/-- How a manifest is read. -/
def record : Json.Record Manifest where
  name := "ReleaseManifest"
  blank := ⟨"", "", none⟩
  fields :=
    [ .of "version" true (Json.textOf "a string") fun v m => { m with version := v },
      .of "url" true (Json.textOf "a string") fun v m => { m with url := v },
      .of "notes" false (Json.optional (Json.textOf "a string"))
        fun v m => { m with notes := v } ]

def parse (contents : Bytes) : Except Json.Fault Manifest :=
  Json.whole record.reader contents

end Manifest

/-- The release that was installed last. -/
structure Installed where
  version : String
  artifact : String
  /-- When it was installed. -/
  moment : String
deriving DecidableEq, Repr

namespace Installed

def timestamp : Json.Reader String := fun depth bytes => do
  let (text, rest) ← Json.textOf "an RFC 3339 formatted date and time string" depth bytes
  match checkTimestamp text with
  | .ok () => .ok (text, rest)
  | .error fault => .error (.refused fault.message)

def record : Json.Record Installed where
  name := "InstalledRecord"
  blank := ⟨"", "", ""⟩
  fields :=
    [ .of "version" true (Json.textOf "a string") fun v r => { r with version := v },
      .of "artifact" true (Json.textOf "path string") fun v r => { r with artifact := v },
      .of "installed_at" true timestamp fun v r => { r with moment := v } ]

def parse (contents : Bytes) : Except Json.Fault Installed :=
  Json.whole record.reader contents

/-- A character as it stands in a JSON string. -/
def jsonChar (c : Char) : List Char :=
  let n := c.toNat
  if c = '"' then ['\\', '"']
  else if c = '\\' then ['\\', '\\']
  else if n = 0x08 then ['\\', 'b']
  else if n = 0x09 then ['\\', 't']
  else if n = 0x0A then ['\\', 'n']
  else if n = 0x0C then ['\\', 'f']
  else if n = 0x0D then ['\\', 'r']
  else if n < 0x20 then
    ['\\', 'u', '0', '0', (n / 16).digitChar, (n % 16).digitChar]
  else [c]

def jsonString (text : String) : String :=
  String.ofList ('"' :: text.toList.flatMap jsonChar ++ ['"'])

def text (r : Installed) : String :=
  "\x7b\n  \"version\": " ++ jsonString r.version ++ ",\n  \"artifact\": " ++
    jsonString r.artifact ++ ",\n  \"installed_at\": " ++ jsonString r.moment ++ "\n\x7d"

end Installed

end Vitae
