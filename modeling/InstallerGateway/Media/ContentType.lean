import InstallerGateway.Media.Table
import InstallerGateway.Text.Character
import InstallerGateway.Text.Split

/-!
# Content types of objects

An object is served with the type under which it was stored, unless that says nothing about it; then
the type is taken from the extension. Disk images and Windows programs always have a type of their
own.
-/

namespace InstallerGateway.ContentType

/-- The type of an object about which nothing is known. -/
def unknown : String := "application/octet-stream"

/-- Base and extension of a path. The extension begins with the last point of the last segment, if
that has any other character than points before it; otherwise it is empty. -/
def splitExtension (path : List Char) : List Char × List Char :=
  match splitLast '.' path with
  | none => (path, [])
  | some (base, ext) =>
    let before := ((splitLast '/' base).map (·.2)).getD base
    if ext.contains '/' || before.all (· == '.') then (path, []) else (base, '.' :: ext)

/-- The extensions that stand for two. -/
def doubled? (ext : List Char) : Option (List Char) :=
  let name := lower (String.ofList ext)
  if name = ".svgz" then some ".svg.gz".toList
  else if name = ".tgz" || name = ".taz" || name = ".tz" then some ".tar.gz".toList
  else if name = ".tbz2" then some ".tar.bz2".toList
  else if name = ".txz" then some ".tar.xz".toList
  else none

/-- The extension is that of a compressed file. -/
def isCompressed (ext : List Char) : Bool :=
  let name := String.ofList ext
  name = ".gz" || name = ".Z" || name = ".bz2" || name = ".xz" || name = ".br"

/-- The character may stand in the scheme of a URL. -/
def isSchemeChar (c : Char) : Bool :=
  c.isAlphanum || c == '+' || c == '-' || c == '.'

/-- The path of a name that may be a URL: what follows the scheme, up to a query or fragment. A name
without a scheme is a path. -/
def pathOf (name : List Char) : List Char :=
  match splitFirst ':' name with
  | some (scheme, rest) =>
    if scheme.head?.any Char.isAlpha && scheme.all isSchemeChar then
      let rest := rest.filter fun c => c != '\t' && c != '\r' && c != '\n'
      let rest := match rest with
        | '/' :: '/' :: more => more.dropWhile fun c => c != '/' && c != '?' && c != '#'
        | _ => rest
      rest.takeWhile fun c => c != '?' && c != '#'
    else name
  | none => name

/-- The type of a file with an extension. Of the name of a compressed file what lies before the last
extension counts. -/
def guess? (extension : String) : Option String :=
  let (base, ext) := splitExtension (pathOf ("file.".toList ++ extension.toList))
  let (base, ext) := match doubled? ext with
    | some more => splitExtension (base ++ more)
    | none => (base, ext)
  let ext := if isCompressed ext then (splitExtension base).2 else ext
  match ext with
  | '.' :: name => Media.typeOf? (lower (String.ofList name))
  | _ => none

/-- The types that some extensions have whatever is stored. -/
def fixed? (extension : String) : Option String :=
  let name := lower extension
  if name = "dmg" then some "application/x-apple-diskimage"
  else if name = "exe" then some "application/x-msdownload"
  else none

/-- The media type of a content type: what lies before the first semicolon, without blanks around
it, in small letters. -/
def mediaType (contentType : String) : String :=
  let cs := contentType.toList
  lower (String.ofList (stripBy isBlank (((splitFirst ';' cs).map (·.1)).getD cs)))

/-- The media type says nothing about an object. -/
def isGeneric (media : String) : Bool :=
  media = "" || media = "application/octet-stream" || media = "binary/octet-stream"

/-- The media type is that of a form, which clients send without regard to what they upload. -/
def isForm (media : String) : Bool :=
  media = "application/x-www-form-urlencoded" || media = "multipart/form-data"

/-- The content type of an object with an extension, stored under a type if one is given. -/
def ofStored (extension : String) (stored : Option String) : String :=
  match fixed? extension with
  | some t => t
  | none =>
    let inferred := (guess? extension).getD unknown
    match stored with
    | none => inferred
    | some t => if isGeneric (mediaType t) then inferred else t

/-- The content type under which an upload with an extension is stored, if the client declares a
type. -/
def ofUpload (extension : String) (declared : Option String) : String :=
  match declared with
  | none => ofStored extension none
  | some t =>
    let media := mediaType t
    if media = "" || isForm media then ofStored extension none else t

end InstallerGateway.ContentType
