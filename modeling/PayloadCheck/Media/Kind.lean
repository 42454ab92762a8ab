import PayloadCheck.Media.Upload
import PayloadCheck.Network.Url

/-!
# Kinds of media

The registered kinds of files by the ending of their names, and the endings of a kind. Endings are
written with their point.
-/

namespace PayloadCheck.Media

open PayloadCheck.Text PayloadCheck.Network

/-- The registered endings and their kinds. -/
def registered : List (String × String) := [
    (".js", "application/javascript"), (".mjs", "application/javascript"),
    (".json", "application/json"), (".webmanifest", "application/manifest+json"),
    (".doc", "application/msword"), (".dot", "application/msword"),
    (".wiz", "application/msword"), (".nq", "application/n-quads"),
    (".nt", "application/n-triples"), (".bin", "application/octet-stream"),
    (".a", "application/octet-stream"), (".dll", "application/octet-stream"),
    (".exe", "application/octet-stream"), (".o", "application/octet-stream"),
    (".obj", "application/octet-stream"), (".so", "application/octet-stream"),
    (".oda", "application/oda"), (".pdf", "application/pdf"), (".p7c", "application/pkcs7-mime"),
    (".ps", "application/postscript"), (".ai", "application/postscript"),
    (".eps", "application/postscript"), (".trig", "application/trig"),
    (".m3u", "application/vnd.apple.mpegurl"), (".m3u8", "application/vnd.apple.mpegurl"),
    (".xls", "application/vnd.ms-excel"), (".xlb", "application/vnd.ms-excel"),
    (".ppt", "application/vnd.ms-powerpoint"), (".pot", "application/vnd.ms-powerpoint"),
    (".ppa", "application/vnd.ms-powerpoint"), (".pps", "application/vnd.ms-powerpoint"),
    (".pwz", "application/vnd.ms-powerpoint"), (".wasm", "application/wasm"),
    (".bcpio", "application/x-bcpio"), (".cpio", "application/x-cpio"),
    (".csh", "application/x-csh"), (".dvi", "application/x-dvi"), (".gtar", "application/x-gtar"),
    (".hdf", "application/x-hdf"), (".h5", "application/x-hdf5"),
    (".latex", "application/x-latex"), (".mif", "application/x-mif"),
    (".cdf", "application/x-netcdf"), (".nc", "application/x-netcdf"),
    (".p12", "application/x-pkcs12"), (".pfx", "application/x-pkcs12"),
    (".ram", "application/x-pn-realaudio"), (".pyc", "application/x-python-code"),
    (".pyo", "application/x-python-code"), (".sh", "application/x-sh"),
    (".shar", "application/x-shar"), (".swf", "application/x-shockwave-flash"),
    (".sv4cpio", "application/x-sv4cpio"), (".sv4crc", "application/x-sv4crc"),
    (".tar", "application/x-tar"), (".tcl", "application/x-tcl"), (".tex", "application/x-tex"),
    (".texi", "application/x-texinfo"), (".texinfo", "application/x-texinfo"),
    (".roff", "application/x-troff"), (".t", "application/x-troff"),
    (".tr", "application/x-troff"), (".man", "application/x-troff-man"),
    (".me", "application/x-troff-me"), (".ms", "application/x-troff-ms"),
    (".ustar", "application/x-ustar"), (".src", "application/x-wais-source"),
    (".xsl", "application/xml"), (".rdf", "application/xml"), (".wsdl", "application/xml"),
    (".xpdl", "application/xml"), (".zip", "application/zip"), (".3gp", "audio/3gpp"),
    (".3gpp", "audio/3gpp"), (".3g2", "audio/3gpp2"), (".3gpp2", "audio/3gpp2"),
    (".aac", "audio/aac"), (".adts", "audio/aac"), (".loas", "audio/aac"), (".ass", "audio/aac"),
    (".au", "audio/basic"), (".snd", "audio/basic"), (".mp3", "audio/mpeg"),
    (".mp2", "audio/mpeg"), (".opus", "audio/opus"), (".aif", "audio/x-aiff"),
    (".aifc", "audio/x-aiff"), (".aiff", "audio/x-aiff"), (".ra", "audio/x-pn-realaudio"),
    (".wav", "audio/x-wav"), (".avif", "image/avif"), (".bmp", "image/bmp"),
    (".gif", "image/gif"), (".ief", "image/ief"), (".jpg", "image/jpeg"), (".jpe", "image/jpeg"),
    (".jpeg", "image/jpeg"), (".heic", "image/heic"), (".heif", "image/heif"),
    (".png", "image/png"), (".svg", "image/svg+xml"), (".tiff", "image/tiff"),
    (".tif", "image/tiff"), (".ico", "image/vnd.microsoft.icon"), (".ras", "image/x-cmu-raster"),
    (".pnm", "image/x-portable-anymap"), (".pbm", "image/x-portable-bitmap"),
    (".pgm", "image/x-portable-graymap"), (".ppm", "image/x-portable-pixmap"),
    (".rgb", "image/x-rgb"), (".xbm", "image/x-xbitmap"), (".xpm", "image/x-xpixmap"),
    (".xwd", "image/x-xwindowdump"), (".eml", "message/rfc822"), (".mht", "message/rfc822"),
    (".mhtml", "message/rfc822"), (".nws", "message/rfc822"), (".css", "text/css"),
    (".csv", "text/csv"), (".html", "text/html"), (".htm", "text/html"), (".n3", "text/n3"),
    (".txt", "text/plain"), (".bat", "text/plain"), (".c", "text/plain"), (".h", "text/plain"),
    (".ksh", "text/plain"), (".pl", "text/plain"), (".srt", "text/plain"),
    (".rtx", "text/richtext"), (".tsv", "text/tab-separated-values"), (".vtt", "text/vtt"),
    (".py", "text/x-python"), (".etx", "text/x-setext"), (".sgm", "text/x-sgml"),
    (".sgml", "text/x-sgml"), (".vcf", "text/x-vcard"), (".xml", "text/xml"),
    (".mp4", "video/mp4"), (".mpeg", "video/mpeg"), (".m1v", "video/mpeg"),
    (".mpa", "video/mpeg"), (".mpe", "video/mpeg"), (".mpg", "video/mpeg"),
    (".mov", "video/quicktime"), (".qt", "video/quicktime"), (".webm", "video/webm"),
    (".avi", "video/x-msvideo"), (".movie", "video/x-sgi-movie")]

/-- Endings in common use without being registered; they tell no kind, but a kind has them. -/
def common : List (String × String) := [
    (".rtf", "application/rtf"), (".midi", "audio/midi"), (".mid", "audio/midi"),
    (".jpg", "image/jpg"), (".pict", "image/pict"), (".pct", "image/pict"),
    (".pic", "image/pict"), (".webp", "image/webp"), (".xul", "text/xul")]

/-- Endings that stand for two. -/
def combined : List (String × String) := [
    (".svgz", ".svg.gz"), (".tgz", ".tar.gz"), (".taz", ".tar.gz"), (".tz", ".tar.gz"),
    (".tbz2", ".tar.bz2"), (".txz", ".tar.xz")]

/-- Endings of compressed files, which hide the ending before them; capitals count. -/
def compressed : List String := [".gz", ".Z", ".bz2", ".xz", ".br"]

/-- A path without the ending of its last component, and the ending. Points at the beginning of
the component are no ending. -/
def splitEnding (path : List Char) : List Char × List Char :=
  let name := (path.reverse.takeWhile (· != '/')).reverse
  let body := name.dropWhile (· == '.')
  match cut? '.' body.reverse with
  | none => (path, [])
  | some (ending, _) =>
    let n := path.length - (ending.length + 1)
    (path.take n, path.drop n)

/-- Small letters of an ending. -/
def small (ending : List Char) : String := lower (String.ofList ending)

/-- A path with combined endings written out. -/
def expandEnding (path : List Char) : List Char × List Char :=
  let (base, ending) := splitEnding path
  match combined.lookup (small ending) with
  | some full => splitEnding (base ++ full.toList)
  | none => (base, ending)

/-- The kind that a file name tells by its ending. -/
def kindOfName (path : List Char) : Option String :=
  let (base, ending) := expandEnding path
  let ending := if compressed.contains (String.ofList ending) then (splitEnding base).2 else ending
  registered.lookup (small ending)

/-- The kind that embedded data declares before its first comma; plain text where it declares
none. -/
def kindOfData (path : List Char) : Option String :=
  match cut? ',' path with
  | none => none
  | some (before, _) =>
    let kind := (cutFirst ';' before).1
    if kind.contains '=' || !kind.contains '/' then some "text/plain"
    else some (String.ofList kind)

/-- Schemes whose last path component may carry parameters after a semicolon. -/
def schemesWithParameters : List String :=
  ["", "ftp", "hdl", "prospero", "http", "https", "shttp", "rtsp", "rtspu", "sip", "sips", "mms",
   "sftp", "tel"]

/-- A path without the parameters of its last component. -/
def withoutParameters (path : List Char) : List Char :=
  let name := (path.reverse.takeWhile (· != '/')).reverse
  path.take (path.length - name.length) ++ (cutFirst ';' name).1

/-- The kind that the name of a file, or its locator, tells. -/
def guessKind (name : String) : Except Fault (Option String) := do
  let url ← Url.read name.toList
  if url.scheme.length ≤ 1 then return kindOfName name.toList
  let path :=
    if schemesWithParameters.contains (String.ofList url.scheme) then withoutParameters url.path
    else url.path
  return if url.scheme = "data".toList then kindOfData path else kindOfName path

/-- The endings of a kind, without their points: registered ones first, then common ones. -/
def endingsOf (kind : String) : List String :=
  let wanted := lower kind
  let endings := fun (table : List (String × String)) =>
    (table.filter fun (_, k) => k == wanted).map Prod.fst
  let first := endings registered
  let all := first ++ (endings common).filter fun e => !first.contains e
  all.map fun e => String.ofList (e.toList.dropWhile (· == '.'))

end PayloadCheck.Media

namespace PayloadCheck.Upload

/-- The kind of an upload: the declared one, else what its name tells. -/
def kind (u : Upload) : Except Fault (Option String) :=
  match u.mediaType with
  | some t => if t.isEmpty then guess u else .ok (some t)
  | none => guess u
where
  /-- What the name at the sender's side tells, or else the path. -/
  guess (u : Upload) : Except Fault (Option String) :=
    Media.guessKind <| match u.clientName with
      | some n => if n.isEmpty then u.path else n
      | none => u.path

/-- The endings of an upload's kind. -/
def endings (u : Upload) : Except Fault (List String) := do
  match ← u.kind with
  | some k => return if k.isEmpty then [] else Media.endingsOf k
  | none => return []

end PayloadCheck.Upload
