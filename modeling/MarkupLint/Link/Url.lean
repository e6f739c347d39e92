import MarkupLint.Link.Host
import MarkupLint.Text.Case
import MarkupLint.Text.Number
import MarkupLint.Text.Quoted

/-! # Links to resources

The path of a link, its segments, the file it names and the version its path mentions. A link
whose host part is malformed has no path.
-/
namespace MarkupLint.Link

inductive UrlError where
  | brackets
  | futureAddress
  | noAddress (host : String)
  | bracketedAddress4
  | lookalike (netloc : String)
  deriving DecidableEq, Repr

def UrlError.message : UrlError → String
  | brackets => "Invalid IPv6 URL"
  | futureAddress => "IPvFuture address is invalid"
  | noAddress host => Text.quoted host ++ " does not appear to be an IPv4 or IPv6 address"
  | bracketedAddress4 => "An IPv4 address cannot be in brackets"
  | lookalike netloc =>
    "netloc '" ++ netloc ++ "' contains invalid characters under NFKC normalization"

def isSchemeChar (c : Char) : Bool :=
  c.isAlphanum || c == '+' || c == '.' || c == '-'

/-- The schemes whose paths have parameters after a semicolon; the empty one stands for a link
without a scheme. -/
def parameterSchemes : List String :=
  ["", "ftp", "hdl", "prospero", "http", "imap", "https", "shttp", "rtsp", "rtspu", "sip",
    "sips", "mms", "sftp", "tel"]

/-- The characters whose compatibility forms hold one of the delimiters of a host part. -/
def lookalikeCodes : List Nat :=
  [0x2047, 0x2048, 0x2049, 0x2100, 0x2101, 0x2105, 0x2106, 0x2A74, 0xFE13, 0xFE16, 0xFE55,
    0xFE56, 0xFE5F, 0xFE6B, 0xFF03, 0xFF0F, 0xFF1A, 0xFF1F, 0xFF20]

/-- The link without leading controls and blanks and without any tab or line end. -/
def cleaned (url : List Char) : List Char :=
  (url.dropWhile fun c => c.toNat ≤ 0x20).filter fun c => c != '\t' && c != '\r' && c != '\n'

def splitScheme (url : List Char) : String × List Char :=
  let front := url.takeWhile (· != ':')
  if front.length < url.length && (front.head?.map Char.isAlpha).getD false &&
      front.all isSchemeChar then
    (String.ofList (front.map Char.toLower), url.drop (front.length + 1))
  else ("", url)

def splitNetloc (rest : List Char) : List Char × List Char :=
  match rest with
  | '/' :: '/' :: rest =>
    let netloc := rest.takeWhile fun c => c != '/' && c != '?' && c != '#'
    (netloc, rest.drop netloc.length)
  | rest => ([], rest)

def afterLast (c : Char) (cs : List Char) : List Char :=
  (cs.reverse.takeWhile (· != c)).reverse

def isFutureAddress (host : List Char) : Bool :=
  let digits := host.tail.takeWhile Text.isHexDigit
  !digits.isEmpty &&
    match host.tail.drop digits.length with
    | '.' :: _ :: _ => true
    | _ => false

def checkBracketed (host : List Char) : Except UrlError Unit :=
  if host.head? == some 'v' then
    if isFutureAddress host then .ok () else .error .futureAddress
  else if isAddress4 host then .error .bracketedAddress4
  else if isAddress6 host then .ok ()
  else .error (.noAddress (String.ofList host))

def checkBrackets (netloc : List Char) : Except UrlError Unit :=
  match netloc.contains '[', netloc.contains ']' with
  | false, false => .ok ()
  | true, true =>
    let hostPort := afterLast '@' netloc
    let before := hostPort.takeWhile (· != '[')
    if before.length < hostPort.length then
      let bracketed := hostPort.drop (before.length + 1)
      let host := bracketed.takeWhile (· != ']')
      let behind := bracketed.drop (host.length + 1)
      if !before.isEmpty || (!behind.isEmpty && behind.head? != some ':') then .error .brackets
      else checkBracketed host
    else checkBracketed (hostPort.takeWhile (· != ':'))
  | _, _ => .error .brackets

def checkLookalikes (netloc : List Char) : Except UrlError Unit :=
  if netloc.any fun c => lookalikeCodes.contains c.toNat then
    .error (.lookalike (String.ofList netloc))
  else .ok ()

def dropParameters : List (List Char) → List (List Char)
  | [] => []
  | [segment] => [segment.takeWhile (· != ';')]
  | segment :: rest => segment :: dropParameters rest

def segmentsOf (url : List Char) : Except UrlError (List (List Char)) := do
  let (scheme, rest) := splitScheme (cleaned url)
  let (netloc, rest) := splitNetloc rest
  checkBrackets netloc
  checkLookalikes netloc
  let segments := Text.splitAt (· == '/') (rest.takeWhile fun c => c != '#' && c != '?')
  return if parameterSchemes.contains scheme then dropParameters segments else segments

def pathSegments (url : String) : Except UrlError (List String) :=
  (segmentsOf url.toList).map (List.map String.ofList)

def isSuffixMark (c : Char) : Bool := c == '#' || c == '?'

/-- A link without the query or fragment of its last line; one line feed at the end stays. -/
def withoutSuffix (url : List Char) : List Char :=
  let body := Text.dropFinalNewline url
  let lastLine := afterLast '\n' body
  body.take (body.length - lastLine.length) ++ lastLine.takeWhile (!isSuffixMark ·) ++
    url.drop body.length

def filename (url : String) : String :=
  String.ofList (afterLast '/' (withoutSuffix url.toList))

/-- Whether a segment is three numbers with points between them; one line feed after it is
tolerated. -/
def isVersionSegment (segment : String) : Bool :=
  let parts := Text.splitAt (· == '.') (Text.dropFinalNewline segment.toList)
  parts.length == 3 && parts.all fun p => !p.isEmpty && p.all Text.isDecimalDigit

def versionsIn (segments : List String) : List String :=
  segments.filter isVersionSegment

def versionIn? (url : Option String) : Except UrlError (Option String) :=
  match url with
  | none => .ok none
  | some url =>
    if url.isEmpty then .ok none
    else (pathSegments url).map fun segments => (versionsIn segments).getLast?

end MarkupLint.Link
