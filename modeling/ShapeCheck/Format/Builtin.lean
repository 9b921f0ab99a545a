import ShapeCheck.Format.Address
import ShapeCheck.Format.Basic

/-!
# The standard formats

* `Formats.builtin`: thirteen formats, eight given by patterns and five by predicates;
* `isEmail`, `isMilliseconds`: the predicates that are more than a name for something else.

Pattern texts are put together from the texts of their parts.
-/

namespace ShapeCheck.Format

/-- The names of colors. -/
def colorNames : List String := [
  "maroon", "red", "orange", "yellow", "olive", "green", "purple", "fuchsia", "lime", "teal",
  "aqua", "blue", "navy", "black", "gray", "silver", "white", "indianred", "lightcoral", "salmon",
  "darksalmon", "lightsalmon", "crimson", "firebrick", "darkred", "pink", "lightpink", "hotpink",
  "deeppink", "mediumvioletred", "palevioletred", "coral", "tomato", "orangered", "darkorange",
  "gold", "lightyellow", "lemonchiffon", "lightgoldenrodyellow", "papayawhip", "moccasin",
  "peachpuff", "palegoldenrod", "khaki", "darkkhaki", "lavender", "thistle", "plum", "violet",
  "orchid", "magenta", "mediumorchid", "mediumpurple", "amethyst", "blueviolet", "darkviolet",
  "darkorchid", "darkmagenta", "indigo", "slateblue", "darkslateblue", "mediumslateblue",
  "greenyellow", "chartreuse", "lawngreen", "limegreen", "palegreen", "lightgreen",
  "mediumspringgreen", "springgreen", "mediumseagreen", "seagreen", "forestgreen", "darkgreen",
  "yellowgreen", "olivedrab", "darkolivegreen", "mediumaquamarine", "darkseagreen", "lightseagreen",
  "darkcyan", "cyan", "lightcyan", "paleturquoise", "aquamarine", "turquoise", "mediumturquoise",
  "darkturquoise", "cadetblue", "steelblue", "lightsteelblue", "powderblue", "lightblue", "skyblue",
  "lightskyblue", "deepskyblue", "dodgerblue", "cornflowerblue", "royalblue", "mediumblue",
  "darkblue", "midnightblue", "cornsilk", "blanchedalmond", "bisque", "navajowhite", "wheat",
  "burlywood", "tan", "rosybrown", "sandybrown", "goldenrod", "darkgoldenrod", "peru", "chocolate",
  "saddlebrown", "sienna", "brown", "snow", "honeydew", "mintcream", "azure", "aliceblue",
  "ghostwhite", "whitesmoke", "seashell", "beige", "oldlace", "floralwhite", "ivory",
  "antiquewhite", "linen", "lavenderblush", "mistyrose", "gainsboro", "lightgrey", "darkgray",
  "dimgray", "lightslategray", "slategray", "darkslategray"]

/-- A date and a time with an offset. -/
def dateTimeSource : String :=
  "^\\d\x7b4\x7d-\\d\x7b2\x7d-\\d\x7b2\x7d" ++
    "T\\d\x7b2\x7d:\\d\x7b2\x7d:\\d\x7b2\x7d(?:\\.\\d\x7b1,3\x7d)?" ++
    "(?:Z|[+\\-]\\d\x7b2\x7d:\\d\x7b2\x7d)$"

/-- A date. -/
def dateSource : String := "^\\d\x7b4\x7d-\\d\x7b2\x7d-\\d\x7b2\x7d$"

/-- A time of day. -/
def timeSource : String := "^\\d\x7b2\x7d:\\d\x7b2\x7d:\\d\x7b2\x7d(?:\\.\\d\x7b1,3\x7d)?$"

/-- A component of a color from 0 to 255. -/
def componentSource : String :=
  "\\s*(?:25[0-5]|2[0-4][0-9]|1[0-9][0-9]|[1-9][0-9]|[0-9])\\s*"

/-- A component of a color in percent. -/
def percentSource : String := "\\s*(?:100%|\\d?\\d%)\\s*"

/-- A color by number, by components or by name. -/
def colorSource : String :=
  "(?i)^(?:#?(?:[0-9a-f]\x7b3\x7d|[0-9a-f]\x7b6\x7d)" ++
    "|rgb\\(" ++ componentSource ++ "," ++ componentSource ++ "," ++ componentSource ++ "\\)" ++
    "|rgb\\(" ++ percentSource ++ "," ++ percentSource ++ "," ++ percentSource ++ "\\)" ++
    "|(?:" ++ String.intercalate "|" colorNames ++ "))$"

/-- A property and its value. -/
def styleSource : String := "^\\s*[^:]+\\s*:\\s*[^:;]+\\s*;?\\s*$"

/-- Characters of a resource identifier that stand for themselves. -/
def unreservedSource : String := "a-z0-9\\-._~!$&'()*+,;="

/-- A class of the unreserved characters and some more, or an escaped byte. -/
def resourceChar (more : String) : String :=
  "(?:[" ++ unreservedSource ++ more ++ "]|%[0-9a-f]\x7b2\x7d)"

/-- A resource identifier. -/
def uriSource : String :=
  "(?i)^(?:" ++
    "[a-z0-9+.\\-]+://" ++
    "(?:" ++ resourceChar ":" ++ "*@)?" ++
    resourceChar "" ++ "*" ++
    "(?::\\d*)?" ++
    "(?:/" ++ resourceChar ":@/" ++ "*)?" ++
    "|[a-z0-9+.\\-]+:(?:/?" ++ resourceChar ":@" ++ "+" ++ resourceChar ":@/" ++ "*)?" ++
    ")" ++
    "(?:\\?" ++ resourceChar ":/?@" ++ "*)?" ++
    "(?:#" ++ resourceChar ":/?@" ++ "*)?$"

/-- A number from 0 to 255, with leading zeros up to three digits. -/
def octetSource : String := "(?:25[0-5]|2[0-4][0-9]|[01]?[0-9][0-9]?)"

/-- Four octets with dots between. -/
def quadSource : String := "^(?:" ++ octetSource ++ "\\.)\x7b3\x7d" ++ octetSource ++ "$"

/-- A label of a host name. -/
def labelSource : String := "(?:[a-zA-Z]|[a-zA-Z][a-zA-Z0-9\\-]*[a-zA-Z0-9])"

/-- Labels with dots between. -/
def hostSource : String := "^(?:" ++ labelSource ++ "\\.)*" ++ labelSource ++ "$"

/-- The shape of a mail address, without regard to lengths. -/
def emailSource : String :=
  "(?i)^[a-z0-9!#$%&'*+/=?^_`\x7b|\x7d~\\-]+(?:\\.[a-z0-9!#$%&'*+/=?^_`\x7b|\x7d~\\-]+)*@" ++
    "(?:(?:(?:xn--)?[a-z0-9]+(?:-[a-z0-9]+)*\\.)+[a-z][a-z0-9]*(?:-[a-z0-9]+)*" ++
    "|\\[(?:(?:25[0-5]|2[0-4][0-9]|1[0-9]\x7b2\x7d|[1-9]?[0-9])\\.)\x7b3\x7d" ++
    "(?:25[0-5]|2[0-4][0-9]|1[0-9]\x7b2\x7d|[1-9]?[0-9])\\])$"

/-- The format of a pattern text; one that is refused would accept nothing. -/
def ofSource (source : String) : Format := (ofSource? source).getD (.predicate fun _ => false)

/-- The format of mail addresses by shape alone. -/
def emailShape : Format := ofSource emailSource

/-- The text before and after the last of a character. -/
def cutAtLast? (mark : Char) (cs : List Char) : Option (List Char × List Char) :=
  match cs.reverse.dropWhile (· ≠ mark) with
  | [] => none
  | _ :: before => some (before.reverse, (cs.reverse.takeWhile (· ≠ mark)).reverse)

/-- The pieces between the marks. -/
def pieces (mark : Char) : List Char → List (List Char)
  | [] => [[]]
  | c :: rest =>
    match pieces mark rest with
    | [] => [[c]]
    | first :: more => if c = mark then [] :: first :: more else (c :: first) :: more

/-- A mail address of at most 254 bytes, at most 64 of them before the last `@`, with less than 64
in each label after it. -/
def isEmail (s : String) : Bool :=
  match cutAtLast? '@' s.toList with
  | none => false
  | some (before, domain) =>
    Text.byteLength s.toList ≤ 254 && Text.byteLength before ≤ 64 &&
      (pieces '.' domain).all (Text.byteLength · < 64) && emailShape.accepts s

/-- A decimal digit, after blanks and a sign. -/
def isMilliseconds (s : String) : Bool :=
  let rest := s.toList.dropWhile Pattern.isSpace
  let digits := match rest with
    | '+' :: more => more
    | '-' :: more => more
    | _ => rest
  digits.head?.any Char.isDigit

/-- The formats that are given by patterns. -/
def patternFormats : List (String × Format) := [
  ("date-time", ofSource dateTimeSource),
  ("date", ofSource dateSource),
  ("time", ofSource timeSource),
  ("color", ofSource colorSource),
  ("style", ofSource styleSource),
  ("uri", ofSource uriSource),
  ("ip-address", ofSource quadSource),
  ("host-name", ofSource hostSource)]

/-- The formats that are given by predicates; any text will do for a phone number. -/
def predicateFormats : List (String × Format) := [
  ("utc-millisec", .predicate isMilliseconds),
  ("regex", .predicate fun s => (Pattern.compile? s).isSome),
  ("phone", .predicate fun _ => true),
  ("email", .predicate isEmail),
  ("ipv6", .predicate fun s => Address.isAddress s.toList)]

end ShapeCheck.Format

namespace ShapeCheck

/-- The standard formats. -/
def Formats.builtin : Formats := Table.ofList (Format.patternFormats ++ Format.predicateFormats)

end ShapeCheck
