import PromiseHttp.Reply.FilePath
import PromiseHttp.Text.LetterCase

namespace PromiseHttp

/-!
# Media types of files

The media type of a file is told by the extension of the last component of its path, without
regard to the case of ASCII letters.
-/

namespace MediaType

/-- What a file is taken for when its extension says nothing. -/
def unknown : String := "application/octet-stream"

/-- The media types by extension. -/
def known : List (String × String) :=
  [("html", "text/html; charset=utf-8"),
    ("htm", "text/html; charset=utf-8"),
    ("css", "text/css"),
    ("js", "application/javascript"),
    ("json", "application/json"),
    ("txt", "text/plain; charset=utf-8"),
    ("png", "image/png"),
    ("jpg", "image/jpeg"),
    ("jpeg", "image/jpeg"),
    ("gif", "image/gif"),
    ("svg", "image/svg+xml")]

/-- The media type of the file at a path. -/
def ofPath (path : String) : String :=
  match (FilePath.lastComponent? path).bind FilePath.extension? with
  | some extension => (known.lookup (Text.lower extension)).getD unknown
  | none => unknown

end MediaType

end PromiseHttp
