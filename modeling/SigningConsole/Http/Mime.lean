import SigningConsole.Text.Split
/-!
Content types: whether a text is one, and the content type that a file's name suggests.
-/

namespace SigningConsole.Mime

open Text

/-- Whether the character may stand in a name. -/
def isToken (c : Char) : Bool :=
  c.isAlphanum || c == '!' || c == '#' || c == '$' || c == '%' || c == '&' || c == '\'' ||
    c == '*' || c == '+' || c == '-' || c == '.' || c == '^' || c == '_' || c.toNat == 0x60 ||
    c == '|' || c == '~'

/-- Whether the character may stand between quotes. -/
def isQuotable (c : Char) : Bool := 0x1F < c.toNat && c.toNat != 0x7F

mutual

/-- Parameters after a semicolon: nothing but spaces, or a name. -/
def parameters : List Char → Bool
  | [] => true
  | ' ' :: cs => parameters cs
  | c :: cs => isToken c && name cs

/-- The rest of a parameter's name, up to its equals sign. -/
def name : List Char → Bool
  | [] => false
  | '=' :: cs => value cs
  | c :: cs => isToken c && name cs

/-- A parameter's value from its first character on. -/
def value : List Char → Bool
  | [] => true
  | '"' :: cs => quotedStart cs
  | c :: cs => isToken c && plain cs

/-- The rest of a value without quotes. -/
def plain : List Char → Bool
  | [] => true
  | ';' :: cs => parameters cs
  | c :: cs => isToken c && plain cs

/-- The first character between quotes. -/
def quotedStart : List Char → Bool
  | [] => false
  | c :: cs => isQuotable c && quoted cs

/-- The rest of what stands between quotes. -/
def quoted : List Char → Bool
  | [] => false
  | '"' :: cs => afterQuotes cs
  | c :: cs => isQuotable c && quoted cs

/-- Spaces after a quoted value, up to the next parameter. -/
def afterQuotes : List Char → Bool
  | [] => true
  | ';' :: cs => parameters cs
  | c :: cs => c == ' ' && afterQuotes cs

end

/-- Whether a text is a content type: a name that is not empty, a slash, a name, and parameters. -/
def isMime (s : String) : Bool :=
  match splitFirst? '/' s.toList with
  | none => false
  | some (top, rest) =>
    !top.isEmpty && top.all isToken &&
      match splitFirst? ';' rest with
      | none => rest.all isToken
      | some (sub, params) => !sub.isEmpty && sub.all isToken && parameters params

/-- Content types by the extension of a file's name. -/
def byExtension : List (String × String) :=
  [("apng", "image/apng"), ("avif", "image/avif"), ("bmp", "image/bmp"), ("gif", "image/gif"),
    ("ico", "image/x-icon"), ("jfif", "image/jpeg"), ("jpe", "image/jpeg"), ("jpeg", "image/jpeg"),
    ("jpg", "image/jpeg"), ("png", "image/png"), ("svg", "image/svg+xml"),
    ("svgz", "image/svg+xml"), ("tif", "image/tiff"), ("tiff", "image/tiff"),
    ("webp", "image/webp"), ("css", "text/css"), ("csv", "text/csv"), ("gz", "application/gzip"),
    ("htm", "text/html"), ("html", "text/html"), ("js", "text/javascript"),
    ("json", "application/json"), ("md", "text/markdown"), ("pdf", "application/pdf"),
    ("tar", "application/x-tar"), ("txt", "text/plain"), ("xml", "text/xml"),
    ("zip", "application/zip")]

/-- The extension of a file's name: what stands after its last dot, unless nothing stands before
it. -/
def extension? (fileName : String) : Option String :=
  let cs := fileName.toList.reverse
  match splitFirst? '.' cs with
  | some (ext, stem) =>
    if stem.isEmpty then none else some (String.ofList (ext.reverse.map Char.toLower))
  | none => none

/-- The content type that a file's name suggests. -/
def guess? (fileName : String) : Option String :=
  (extension? fileName).bind fun ext => byExtension.lookup ext

end SigningConsole.Mime
