/-
**File extensions and MIME types.**

Which MIME types go with which file extensions is not for this library to say: it takes a table of
them and counts on little, that extensions are ASCII words and that none stands there twice, when case
does not count.  Of the types of an extension the first one counts.  The usual extensions of media
files, and of what lies beside them, are such a table.

Main definitions:

* `MediaTree.Mime.Table` — a table of extensions with their MIME types;
* `MediaTree.Mime.typeOf?` — the MIME type of a folded extension;
* `MediaTree.Mime.usual` — the usual extensions.
-/

import MediaTree.Text.CaseFold

set_option autoImplicit false
set_option relaxedAutoImplicit false

namespace MediaTree.Mime

/-- A word that may be an extension in a table: it is not empty, it is ASCII, and it holds no
backslash. -/
def IsExtension (x : String) : Prop :=
  x ≠ "" ∧ ∀ c ∈ x.toList, c.toNat < 0x80 ∧ c ≠ '\\'

instance (x : String) : Decidable (IsExtension x) :=
  decidable_of_iff (x ≠ "" ∧ x.toList.all fun c => c.toNat < 0x80 && c != '\\')
    (by simp [IsExtension])

/-- A table of file extensions with their MIME types.  There is one for everything that asks for a
type. -/
class Table where
  /-- Each extension with its types, of which the first one counts. -/
  rows : List (String × List String)
  isExtension : ∀ row ∈ rows, IsExtension row.1
  /-- No extension stands there twice, when case does not count. -/
  nodup : (rows.map fun row => Text.lower row.1.toList).Nodup

/-- The MIME type of an extension, which is given as it folds. -/
def typeOf? [Table] (folded : List Char) : Option String :=
  (Table.rows.find? fun row => Text.lower row.1.toList == folded).bind (·.2.head?)

/-! ### The usual extensions -/

/-- The usual extensions by their MIME types. -/
def usualTypes : List (String × List String) := [
  ("application/atom+xml", ["atom"]),
  ("application/epub+zip", ["epub"]),
  ("application/font-woff", ["woff"]),
  ("application/gzip", ["gz"]),
  ("application/java-archive", ["jar"]),
  ("application/json", ["json"]),
  ("application/msword", ["doc"]),
  ("application/mxf", ["mxf"]),
  ("application/octet-stream", ["bin", "exe", "iso"]),
  ("application/ogg", ["ogx"]),
  ("application/pdf", ["pdf"]),
  ("application/postscript", ["ai", "eps", "ps"]),
  ("application/rss+xml", ["rss"]),
  ("application/vnd.android.package-archive", ["apk"]),
  ("application/vnd.ms-excel", ["xls"]),
  ("application/vnd.ms-fontobject", ["eot"]),
  ("application/vnd.ms-powerpoint", ["ppt"]),
  ("application/vnd.ms-wpl", ["wpl"]),
  ("application/vnd.oasis.opendocument.graphics", ["odg"]),
  ("application/vnd.oasis.opendocument.presentation", ["odp"]),
  ("application/vnd.oasis.opendocument.spreadsheet", ["ods"]),
  ("application/vnd.oasis.opendocument.text", ["odt"]),
  ("application/vnd.openxmlformats-officedocument.presentationml.presentation", ["pptx"]),
  ("application/vnd.openxmlformats-officedocument.presentationml.slideshow", ["ppsx"]),
  ("application/vnd.openxmlformats-officedocument.spreadsheetml.sheet", ["xlsx"]),
  ("application/vnd.openxmlformats-officedocument.wordprocessingml.document", ["docx"]),
  ("application/vnd.rn-realmedia", ["rm"]),
  ("application/vnd.rn-realmedia-vbr", ["rmvb"]),
  ("application/wasm", ["wasm"]),
  ("application/x-7z-compressed", ["7z"]),
  ("application/x-bittorrent", ["torrent"]),
  ("application/x-bzip2", ["bz2"]),
  ("application/x-cbr", ["cbr", "cbz"]),
  ("application/x-director", ["swa"]),
  ("application/x-mobipocket-ebook", ["mobi"]),
  ("application/x-rar-compressed", ["rar"]),
  ("application/x-sh", ["sh"]),
  ("application/x-shockwave-flash", ["swf"]),
  ("application/x-subrip", ["srt"]),
  ("application/x-tar", ["tar"]),
  ("application/x-xz", ["xz"]),
  ("application/xhtml+xml", ["xhtml"]),
  ("application/xspf+xml", ["xspf"]),
  ("application/zip", ["zip"]),
  ("audio/aac", ["aac", "adts"]),
  ("audio/ac3", ["ac3"]),
  ("audio/aiff", ["aif", "aifc", "aiff", "cdda"]),
  ("audio/annodex", ["axa"]),
  ("audio/audible", ["aa"]),
  ("audio/basic", ["au", "snd"]),
  ("audio/flac", ["flac"]),
  ("audio/m4a", ["m4a"]),
  ("audio/m4b", ["m4b"]),
  ("audio/m4p", ["m4p"]),
  ("audio/mid", ["mid", "midi", "rmi"]),
  ("audio/mpeg", ["m2a", "m3a", "mp2", "mp2a", "mp3", "mpga"]),
  ("audio/ogg", ["oga", "ogg", "opus", "spx"]),
  ("audio/s3m", ["s3m"]),
  ("audio/scpls", ["pls"]),
  ("audio/vnd.audible.aax", ["aax"]),
  ("audio/vnd.dlna.adts", ["adt"]),
  ("audio/vnd.dts", ["dts"]),
  ("audio/wav", ["wav", "wave"]),
  ("audio/webm", ["weba"]),
  ("audio/x-caf", ["caf"]),
  ("audio/x-gsm", ["gsm"]),
  ("audio/x-m4r", ["m4r"]),
  ("audio/x-matroska", ["mka"]),
  ("audio/x-mpegurl", ["m3u", "m3u8"]),
  ("audio/x-ms-wax", ["wax"]),
  ("audio/x-ms-wma", ["wma"]),
  ("audio/x-pn-realaudio", ["ra", "ram"]),
  ("audio/xm", ["xm"]),
  ("font/collection", ["ttc"]),
  ("font/otf", ["otf"]),
  ("font/ttf", ["ttf"]),
  ("font/woff2", ["woff2"]),
  ("image/apng", ["apng"]),
  ("image/avif", ["avif"]),
  ("image/bmp", ["bmp", "dib"]),
  ("image/gif", ["gif"]),
  ("image/heic", ["heic"]),
  ("image/heif", ["heif"]),
  ("image/jp2", ["jp2"]),
  ("image/jpeg", ["jpe", "jpeg", "jpg"]),
  ("image/png", ["png"]),
  ("image/svg+xml", ["svg"]),
  ("image/tiff", ["tif", "tiff"]),
  ("image/vnd.adobe.photoshop", ["psd"]),
  ("image/webp", ["webp"]),
  ("image/x-icon", ["ico"]),
  ("message/rfc822", ["eml"]),
  ("text/calendar", ["ics"]),
  ("text/css", ["css"]),
  ("text/csv", ["csv"]),
  ("text/html", ["htm", "html"]),
  ("text/javascript", ["js"]),
  ("text/markdown", ["md"]),
  ("text/plain", ["log", "txt"]),
  ("text/vnd.dvb.subtitle", ["sub"]),
  ("text/vtt", ["vtt"]),
  ("text/x-nfo", ["nfo"]),
  ("text/x-toml", ["toml"]),
  ("text/x-yaml", ["yaml", "yml"]),
  ("text/xml", ["xml"]),
  ("video/3gpp", ["3gp", "3gpp"]),
  ("video/3gpp2", ["3g2", "3gp2"]),
  ("video/annodex", ["axv"]),
  ("video/divx", ["divx"]),
  ("video/h264", ["h264"]),
  ("video/jpeg", ["jpgv"]),
  ("video/mj2", ["mj2"]),
  ("video/mp4", ["mp4", "mp4v", "mpg4"]),
  ("video/mpeg", ["m1v", "m2v", "mod", "mp2v", "mpa", "mpe", "mpeg", "mpg", "mpv2"]),
  ("video/ogg", ["ogv"]),
  ("video/quicktime", ["mov", "qt"]),
  ("video/vnd.dlna.mpeg-tts", ["m2t", "m2ts", "mts", "ts"]),
  ("video/vnd.mpegurl", ["m4u"]),
  ("video/webm", ["webm"]),
  ("video/x-dv", ["dv"]),
  ("video/x-f4v", ["f4v"]),
  ("video/x-flv", ["flv"]),
  ("video/x-ivf", ["ivf"]),
  ("video/x-m4v", ["m4v"]),
  ("video/x-matroska", ["mk3d", "mkv"]),
  ("video/x-ms-asf", ["asf", "asr", "asx"]),
  ("video/x-ms-vob", ["vob"]),
  ("video/x-ms-wm", ["wm"]),
  ("video/x-ms-wmv", ["wmv"]),
  ("video/x-ms-wmx", ["wmx"]),
  ("video/x-ms-wvx", ["wvx"]),
  ("video/x-msvideo", ["avi"]),
  ("video/x-sgi-movie", ["movie"])]

/-- The usual extensions, each with its MIME type. -/
def usualRows : List (String × List String) :=
  usualTypes.flatMap fun (mime, extensions) => extensions.map fun x => (x, [mime])

/-- A word as a number, which tells words apart quickly. -/
def digest (cs : List Char) : Nat := cs.foldl (fun n c => n * 0x80 + c.toNat) 0

/-- The table of the usual extensions. -/
instance usual : Table where
  rows := usualRows
  isExtension := by decide +kernel
  nodup :=
    have hdigests : ((usualRows.map fun row => Text.lower row.1.toList).map digest).Nodup := by
      decide +kernel
    List.Pairwise.of_map digest (fun _ _ hne heq => hne (congrArg digest heq)) hdigests

end MediaTree.Mime
