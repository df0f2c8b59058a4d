import NodeFleet.Http.Date
import NodeFleet.Http.Message
import NodeFleet.Http.Range

/-!
Answers that hand out a file.

A request may ask for a range of the file, and may make its answer depend on the time of the last
change. One range at most is served.
-/

namespace NodeFleet.Http

/-- A file, by its path; the content is absent when there is no such file. -/
structure StoredFile where
  path : String
  content : Option (List UInt8)
  /-- The time of the last change, in seconds. -/
  changed : Int
  deriving DecidableEq, Repr

/-- The media type of files of an unknown kind. -/
def unknownType : String := "application/octet-stream"

/-- The media types of the usual extensions of file names. -/
def extensionTypes : List (String × String) :=
  [("7z", "application/x-7z-compressed"), ("bmp", "image/bmp"), ("bz2", "application/x-bzip2"),
    ("c", "text/plain"), ("conf", "text/plain"), ("css", "text/css"), ("csv", "text/csv"),
    ("gif", "image/gif"), ("gz", "application/gzip"), ("h", "text/plain"), ("htm", "text/html"),
    ("html", "text/html"), ("ico", "image/x-icon"), ("jar", "application/java-archive"),
    ("jpeg", "image/jpeg"), ("jpg", "image/jpeg"), ("js", "text/javascript"),
    ("json", "application/json"), ("log", "text/plain"), ("md", "text/markdown"),
    ("mp3", "audio/mpeg"), ("mp4", "video/mp4"), ("pdf", "application/pdf"),
    ("png", "image/png"), ("py", "text/plain"), ("rs", "text/x-rust"), ("rtf", "application/rtf"),
    ("sh", "application/x-sh"), ("svg", "image/svg+xml"), ("tar", "application/x-tar"),
    ("toml", "text/x-toml"), ("txt", "text/plain"), ("wasm", "application/wasm"),
    ("webp", "image/webp"), ("xml", "text/xml"), ("xz", "application/x-xz"),
    ("yaml", "text/x-yaml"), ("yml", "text/x-yaml"), ("zip", "application/zip")]

/-- The extension of the file name of a path: what stands after its last point, unless that is its
first character. -/
def extension? (path : String) : Option (List Char) :=
  let name := (path.toList.reverse.takeWhile (· ≠ '/')).reverse
  match (Text.splitAll '.' name).reverse with
  | last :: front :: more => if more.isEmpty && front.isEmpty then none else some last
  | _ => none

namespace StoredFile

/-- The media type of a file. -/
def mediaType (f : StoredFile) : String :=
  match extension? f.path with
  | some e => (extensionTypes.lookup (String.ofList (e.map Char.toLower))).getD unknownType
  | none => unknownType

/-- The fields of every answer with the file. -/
def headers (f : StoredFile) : Headers :=
  [("content-type", f.mediaType), ("accept-ranges", "bytes"), ("last-modified", dateText f.changed)]

/-- The answer that no range can be served. -/
def refusal (f : StoredFile) (size : Nat) (body : String) : Response :=
  ⟨416, f.headers ++ [("content-range", "bytes */" ++ Text.showNat size)], Text.bytesOf body⟩

/-- The answer with one range. -/
def part (f : StoredFile) (content : List UInt8) (first last : Nat) : Response :=
  ⟨206, f.headers ++ [("content-range", "bytes " ++ Text.showNat first ++ "-" ++ Text.showNat last
      ++ "/" ++ Text.showNat content.length)],
    (content.drop first).take (last + 1 - first)⟩

/-- The answer with the ranges that are asked for, or with the whole file. -/
def ranged (f : StoredFile) (content : List UInt8) : Option String → Response
  | none => ⟨200, f.headers, content⟩
  | some field =>
    match readRanges? content.length field with
    | some [(first, last)] => f.part content first last
    | some _ => f.refusal content.length "Cannot serve multipart range requests"
    | none => f.refusal content.length ""

/-- The answer to a request for the file. -/
def answer (f : StoredFile) (content : List UInt8) (r : Request) : Response :=
  if ((r.header? "if-unmodified-since").bind readDate?).any (· < f.changed) then .empty 412
  else if ((r.header? "if-modified-since").bind readDate?).any (f.changed ≤ ·) then .empty 304
  else f.ranged content (r.visibleHeader? "range")

end StoredFile

end NodeFleet.Http
